import FilingChecklist.Proofs.Catalog.Columns
import FilingChecklist.Proofs.Checklist.Composition
import FilingChecklist.Store.Change

/-!
What every store keeps, whatever changes led to it: requirements whose rules are those of their
sources, extra columns without a meaning of their own, and trimmed keys, each of which some change
brought in.
-/

namespace FilingChecklist

/-- Some cell of the row gives this text as a key. -/
def Row.Offers (row : Json) (text : String) : Prop :=
  ∃ cells column cell, row = .object cells ∧ Fields.get? cells column = some cell ∧
    KeyCell cell text

theorem Row.KeyText.offers {cells : Object} {kind : KeyKind} {text : String}
    (h : KeyText cells kind text) : Offers (.object cells) text := by
  obtain ⟨column, cell, ⟨_, _, _, hcell, _⟩, htext⟩ := h
  exact ⟨cells, column, cell, rfl, hcell, htext⟩

theorem Row.TextKey.offers {cells : Object} {kind : KeyKind} {key : Key kind}
    (h : TextKey cells kind key.text) : Offers (.object cells) key.text := by
  obtain ⟨s, hcell, htext⟩ := h
  exact ⟨cells, kind.column, .string s, rfl, hcell, htext ▸ .text s (htext ▸ key.isNonempty)⟩

theorem Row.KeyCell.trimmed {cell : Json} {text : String} (h : KeyCell cell text) :
    text ≠ "" ∧ Text.trimmed text = text := by
  cases h with
  | text s hblank => exact ⟨hblank, Text.trimmed_trimmed s⟩
  | number n => exact ⟨n.text_ne_empty, n.trimmed_text⟩

def Requirement.keyTexts (r : Requirement) : List String :=
  [r.jurisdiction.text, r.permitType.text, r.documentType.text]

def DocumentType.keyTexts (t : DocumentType) : List String :=
  [t.key.text]

def Document.keyTexts (d : Document) : List String :=
  [d.project.text, d.documentType.text]

def Project.keyTexts (p : Project) : List String :=
  [p.id.text, p.jurisdiction.text, p.permitType.text]

section

variable {row : Json}

theorem Requirement.offers_of_ofRow {r : Requirement} (h : ofRow row = .ok r) :
    ∀ text ∈ r.keyTexts, Row.Offers row text := by
  obtain ⟨cells, rfl, hjurisdiction, hpermit, htype, -⟩ := ofRow_eq_ok_iff.mp h
  simp only [keyTexts, List.forall_mem_cons]
  exact ⟨hjurisdiction.offers, hpermit.offers, htype.offers, nofun⟩

theorem DocumentType.offers_of_ofRow {t : DocumentType} (h : ofRow row = .ok t) :
    ∀ text ∈ t.keyTexts, Row.Offers row text := by
  obtain ⟨cells, rfl, hkey, -⟩ := ofRow_eq_ok_iff.mp h
  simp only [keyTexts, List.forall_mem_cons]
  exact ⟨hkey.offers, nofun⟩

theorem Document.offers_of_ofRow {d : Document} (h : ofRow row = .ok d) :
    ∀ text ∈ d.keyTexts, Row.Offers row text := by
  obtain ⟨cells, rfl, hproject, htype, -⟩ := ofRow_eq_ok_iff.mp h
  simp only [keyTexts, List.forall_mem_cons]
  exact ⟨hproject.offers, htype.offers, nofun⟩

theorem Project.offers_of_ofRow {p : Project} (h : ofRow row = .ok p) :
    ∀ text ∈ p.keyTexts, Row.Offers row text := by
  obtain ⟨cells, rfl, hid, hjurisdiction, hpermit, -⟩ := ofRow_eq_ok_iff.mp h
  simp only [keyTexts, List.forall_mem_cons]
  exact ⟨hid.offers, hjurisdiction.offers, hpermit.offers, nofun⟩

end

theorem Key.ofText_eq_ok_iff {kind : KeyKind} {s : String} {key : Key kind} :
    Key.ofText s = .ok key ↔ key.text = Text.trimmed s := by
  rw [← Key.ofText?_eq_some_iff, Key.ofText]
  cases (Key.ofText? s : Option (Key kind)) with
  | none => simp
  | some found => simp

theorem mem_modify {α : Type} {items : List α} {position : Nat} {f : α → α} {a : α}
    (h : a ∈ items.modify position f) : a ∈ items ∨ ∃ old ∈ items, a = f old := by
  obtain ⟨i, hi⟩ := List.mem_iff_getElem?.mp h
  rw [List.getElem?_modify] at hi
  obtain ⟨old, hold, rfl⟩ := Option.map_eq_some_iff.mp hi
  have hmem : old ∈ items := List.mem_of_getElem? hold
  split
  · exact .inr ⟨old, hmem, rfl⟩
  · exact .inl hmem

namespace Store

/-- The rows that are read for a change. -/
def Change.rows : Change → List Json
  | .replace (.object sections) =>
      ["documentTypes", "supplementalRequirements", "documents", "projects"].flatMap
        (sectionRows sections)
  | .addRequirement row | .addDocumentType row | .addDocument row | .addProject row => [row]
  | _ => []

/-- The change brings a text as a key, in a row or as it is. -/
inductive Change.Offers : Change → String → Prop
  | row {change : Change} {row : Json} {text : String} (hrow : row ∈ change.rows)
      (htext : Row.Offers row text) : Offers change text
  | definition {jurisdiction permitType documentType raw : String} {source : Json}
      (hraw : raw ∈ [jurisdiction, permitType, documentType]) (hblank : Text.trimmed raw ≠ "") :
      Offers (.defineRequirement jurisdiction permitType documentType source) (Text.trimmed raw)

theorem Change.Offers.trimmed {change : Change} {text : String} (h : change.Offers text) :
    text ≠ "" ∧ Text.trimmed text = text := by
  cases h with
  | row _ htext =>
      obtain ⟨_, _, _, _, _, hcell⟩ := htext
      exact hcell.trimmed
  | definition _ hblank => exact ⟨hblank, Text.trimmed_trimmed _⟩

theorem Change.Offers.of_trimmed {jurisdiction permitType documentType raw : String} {source : Json}
    {kind : KeyKind} {key : Key kind} (htext : key.text = Text.trimmed raw)
    (hraw : raw ∈ [jurisdiction, permitType, documentType]) :
    (defineRequirement jurisdiction permitType documentType source).Offers key.text := by
  rw [htext]
  exact .definition hraw (htext ▸ key.isNonempty)

/-- The requirements that a change leaves in the catalog of a store. -/
inductive Yields (store : Store) (change : Change) : Requirement → Prop
  | kept {r : Requirement} (h : r ∈ store.requirements) : Yields store change r
  | read {row : Json} {r : Requirement} (hrow : row ∈ change.rows)
      (h : Requirement.ofRow row = .ok r) : Yields store change r
  | defined {jurisdiction : Key .jurisdiction} {permitType : Key .permitType}
      {documentType : Key .documentType} {source : Json}
      (hkeys : ∀ text ∈ [jurisdiction.text, permitType.text, documentType.text],
        change.Offers text) :
      Yields store change (.new jurisdiction permitType documentType source)
  | switched {r : Requirement} (h : r ∈ store.requirements) (active : Bool) :
      Yields store change (r.withActive active)

/-- What a change can do to the records of a store. -/
structure Step (store next : Store) (change : Change) : Prop where
  requirements : ∀ r ∈ next.requirements, store.Yields change r
  documentTypes : ∀ t ∈ next.documentTypes,
    t ∈ store.documentTypes ∨ ∃ row ∈ change.rows, DocumentType.ofRow row = .ok t
  documents : ∀ d ∈ next.documents,
    d ∈ store.documents ∨ ∃ row ∈ change.rows, Document.ofRow row = .ok d
  projects : ∀ p ∈ next.projects,
    p ∈ store.projects ∨ ∃ row ∈ change.rows, Project.ofRow row = .ok p

theorem exists_row_of_mem_readSection {α : Type} {read : Json → Except RowError α}
    {sections : Object} {name : String}
    (hname : name ∈ ["documentTypes", "supplementalRequirements", "documents", "projects"]) {a : α}
    (h : a ∈ readSection read (Fields.get? sections name)) :
    ∃ row ∈ (Change.replace (.object sections)).rows, read row = .ok a := by
  rw [readSection_get?] at h
  obtain ⟨row, hrow, hread⟩ := List.mem_filterMap.mp h
  exact ⟨row, List.mem_flatMap.mpr ⟨name, hname, hrow⟩, toOption_eq_some_iff.mp hread⟩

theorem mem_or_exists_of_mem_append {α : Type} {read : Json → Except RowError α} {items : List α}
    {added a : α} {row : Json} (hread : read row = .ok added) (h : a ∈ items ++ [added]) :
    a ∈ items ∨ ∃ source ∈ [row], read source = .ok a := by
  rcases List.mem_append.mp h with h | h
  · exact .inl h
  · exact .inr ⟨row, List.mem_singleton_self row, List.mem_singleton.mp h ▸ hread⟩

theorem step_empty (store : Store) (change : Change) : Step store empty change :=
  ⟨fun _ h => absurd h List.not_mem_nil, fun _ h => absurd h List.not_mem_nil,
    fun _ h => absurd h List.not_mem_nil, fun _ h => absurd h List.not_mem_nil⟩

theorem step_replace (store : Store) (data : Json) : Step store (ofJson data) (.replace data) := by
  cases data with
  | object sections =>
      refine ⟨fun r hr => ?_, fun t ht => .inr ?_, fun d hd => .inr ?_, fun p hp => .inr ?_⟩
      · obtain ⟨row, hrow, hread⟩ := exists_row_of_mem_readSection (by decide) hr
        exact .read hrow hread
      · exact exists_row_of_mem_readSection (by decide) ht
      · exact exists_row_of_mem_readSection (by decide) hd
      · exact exists_row_of_mem_readSection (by decide) hp
  | _ => exact step_empty store _

theorem step_of_apply {store next : Store} {change : Change}
    (happly : store.apply change = .ok next) : Step store next change := by
  cases change with
  | replace data =>
      cases happly
      exact step_replace store data
  | addRequirement row =>
      obtain ⟨added, hread, hnext⟩ := bind_eq_ok_iff.mp happly
      cases hnext
      refine ⟨?_, fun _ => .inl, fun _ => .inl, fun _ => .inl⟩
      intro r hr
      rcases mem_or_exists_of_mem_append (mapError_eq_ok_iff.mp hread) hr with hr | ⟨_, hrow, hr⟩
      · exact .kept hr
      · exact .read hrow hr
  | addDocumentType row =>
      obtain ⟨added, hread, hnext⟩ := bind_eq_ok_iff.mp happly
      cases hnext
      refine ⟨fun _ h => .kept h, ?_, fun _ => .inl, fun _ => .inl⟩
      exact fun _ => mem_or_exists_of_mem_append (mapError_eq_ok_iff.mp hread)
  | addDocument row =>
      obtain ⟨added, hread, hnext⟩ := bind_eq_ok_iff.mp happly
      cases hnext
      refine ⟨fun _ h => .kept h, fun _ => .inl, ?_, fun _ => .inl⟩
      exact fun _ => mem_or_exists_of_mem_append (mapError_eq_ok_iff.mp hread)
  | addProject row =>
      obtain ⟨added, hread, hnext⟩ := bind_eq_ok_iff.mp happly
      cases hnext
      refine ⟨fun _ h => .kept h, fun _ => .inl, fun _ => .inl, ?_⟩
      exact fun _ => mem_or_exists_of_mem_append (mapError_eq_ok_iff.mp hread)
  | defineRequirement jurisdiction permitType documentType source =>
      obtain ⟨jurisdictionKey, hjurisdiction, happly⟩ := bind_eq_ok_iff.mp happly
      obtain ⟨permitTypeKey, hpermit, happly⟩ := bind_eq_ok_iff.mp happly
      obtain ⟨documentTypeKey, htype, hnext⟩ := bind_eq_ok_iff.mp happly
      cases hnext
      rw [mapError_eq_ok_iff, Key.ofText_eq_ok_iff] at hjurisdiction hpermit htype
      refine ⟨?_, fun _ => .inl, fun _ => .inl, fun _ => .inl⟩
      intro r hr
      rcases List.mem_append.mp hr with hr | hr
      · exact .kept hr
      · rw [List.mem_singleton.mp hr]
        refine .defined ?_
        simp only [List.forall_mem_cons]
        exact ⟨.of_trimmed hjurisdiction (by simp), .of_trimmed hpermit (by simp),
          .of_trimmed htype (by simp), nofun⟩
  | setActive position active =>
      cases happly
      refine ⟨?_, fun _ => .inl, fun _ => .inl, fun _ => .inl⟩
      intro r hr
      rcases mem_modify hr with hr | ⟨old, hold, rfl⟩
      · exact .kept hr
      · exact .switched hold active
  | setValues project attributes =>
      cases happly
      exact ⟨fun _ h => .kept h, fun _ => .inl, fun _ => .inl, fun _ => .inl⟩

/-- The text is that of a key that some record of the store holds. -/
inductive HoldsKey (store : Store) : String → Prop
  | requirement {r : Requirement} {text : String} (h : r ∈ store.requirements)
      (htext : text ∈ r.keyTexts) : HoldsKey store text
  | documentType {t : DocumentType} {text : String} (h : t ∈ store.documentTypes)
      (htext : text ∈ t.keyTexts) : HoldsKey store text
  | document {d : Document} {text : String} (h : d ∈ store.documents)
      (htext : text ∈ d.keyTexts) : HoldsKey store text
  | project {p : Project} {text : String} (h : p ∈ store.projects)
      (htext : text ∈ p.keyTexts) : HoldsKey store text

theorem Yields.holdsKey_or_offers {store : Store} {change : Change} {r : Requirement}
    (h : store.Yields change r) {text : String} (htext : text ∈ r.keyTexts) :
    store.HoldsKey text ∨ change.Offers text := by
  cases h with
  | kept h => exact .inl (.requirement h htext)
  | read hrow hread => exact .inr (.row hrow (Requirement.offers_of_ofRow hread text htext))
  | defined hkeys => exact .inr (hkeys text htext)
  | switched h active => exact .inl (.requirement h htext)

theorem Step.holdsKey_or_offers {store next : Store} {change : Change}
    (h : Step store next change) {text : String} (hnext : next.HoldsKey text) :
    store.HoldsKey text ∨ change.Offers text := by
  cases hnext with
  | requirement hr htext => exact (h.requirements _ hr).holdsKey_or_offers htext
  | documentType ht htext =>
      rcases h.documentTypes _ ht with ht | ⟨row, hrow, hread⟩
      · exact .inl (.documentType ht htext)
      · exact .inr (.row hrow (DocumentType.offers_of_ofRow hread text htext))
  | document hd htext =>
      rcases h.documents _ hd with hd | ⟨row, hrow, hread⟩
      · exact .inl (.document hd htext)
      · exact .inr (.row hrow (Document.offers_of_ofRow hread text htext))
  | project hp htext =>
      rcases h.projects _ hp with hp | ⟨row, hrow, hread⟩
      · exact .inl (.project hp htext)
      · exact .inr (.row hrow (Project.offers_of_ofRow hread text htext))

theorem Yields.sound {store : Store} {change : Change} {r : Requirement}
    (h : store.Yields change r) (hstore : ∀ old ∈ store.requirements, old.Sound) : r.Sound := by
  cases h with
  | kept h => exact hstore r h
  | read _ hread => exact Requirement.sound_of_ofRow hread
  | defined _ => exact Requirement.sound_new _ _ _ _
  | switched h active => exact (hstore _ h).withActive active

/-- What none of some changes destroys where it is applied holds after a run of these changes. -/
theorem run_induction {motive : Store → Prop} {store : Store} (hstart : motive store)
    (changes : List Change)
    (hstep : ∀ change ∈ changes, ∀ store next : Store, motive store →
      Step store next change → motive next) : motive (run store changes) := by
  induction changes generalizing store with
  | nil => exact hstart
  | cons change changes ih =>
      obtain ⟨hchange, hchanges⟩ := List.forall_mem_cons.mp hstep
      rw [run, List.foldl_cons, ← run]
      refine ih ?_ hchanges
      cases happly : store.apply change with
      | error cause => exact hstart -- a change that fails is skipped
      | ok next => exact hchange store next hstart (step_of_apply happly)

theorem requirement_sound_of_run (changes : List Change) :
    ∀ r ∈ (run empty changes).requirements, r.Sound := by
  apply run_induction (motive := fun store => ∀ r ∈ store.requirements, r.Sound)
  · intro r hr
    cases hr
  · intro change _ store next hstore hstep r hr
    exact (hstep.requirements r hr).sound hstore

theorem exists_offers_of_run (changes : List Change) :
    ∀ text, (run empty changes).HoldsKey text → ∃ change ∈ changes, change.Offers text := by
  apply run_induction
    (motive := fun store => ∀ text, store.HoldsKey text → ∃ change ∈ changes, change.Offers text)
  · intro text h
    rcases h with ⟨h, _⟩ | ⟨h, _⟩ | ⟨h, _⟩ | ⟨h, _⟩ <;> cases h
  · intro change hchange store next hstore hstep text hnext
    rcases hstep.holdsKey_or_offers hnext with hold | hoffers
    · exact hstore text hold
    · exact ⟨change, hchange, hoffers⟩

structure Sound (store : Store) : Prop where
  rules : ∀ r ∈ store.requirements, r.rule = .ofSource r.source
  keyColumns : ∀ r ∈ store.requirements, ∀ kind : KeyKind, kind ≠ .project →
    ∀ column ∈ kind.columns, column ∉ Fields.keys r.extra
  ruleColumns : ∀ r ∈ store.requirements, ∀ column ∈ Requirement.ruleColumns,
    column ∉ Fields.keys r.extra
  reservedColumns : ∀ r ∈ store.requirements, ∀ column ∈ ["active", "display_name", "satisfied"],
    column ∉ Fields.keys r.extra
  keys : ∀ text, store.HoldsKey text → text ≠ "" ∧ Text.trimmed text = text

/-- After any run the rule of every requirement is that of its source, no column with a meaning of
its own is passed through, and every key is trimmed and not empty, as some change gave it. -/
theorem run_sound (changes : List Change) :
    Sound (run empty changes) ∧
      ∀ text, (run empty changes).HoldsKey text → ∃ change ∈ changes, change.Offers text := by
  have hrequirements := requirement_sound_of_run changes
  have hkeys := exists_offers_of_run changes
  refine ⟨⟨fun r hr => (hrequirements r hr).rule, ?_, ?_, ?_, ?_⟩, hkeys⟩
  · intro r hr kind hkind column hcolumn
    apply (hrequirements r hr).extra
    cases kind with
    | project => exact absurd rfl hkind
    | _ => simp [Requirement.ownColumns, hcolumn]
  · intro r hr column hcolumn
    exact (hrequirements r hr).extra column (by simp [Requirement.ownColumns, hcolumn])
  · intro r hr column hcolumn
    exact (hrequirements r hr).extra column (List.mem_append_right _ hcolumn)
  · intro text htext
    obtain ⟨change, _, hoffers⟩ := hkeys text htext
    exact hoffers.trimmed

theorem run_sound_mixed_changes :
    let row : Json := .object [("active", .string "1"), ("document_type", .string "site_plan"),
      ("jurisdiction", .string " yarmouth "), ("permit_type", .number (.integer 7 (by decide))),
      ("rule", .string "amps >= 50"), ("satisfied", .bool true)]
    let changes : List Change := [
      .replace (.object [("supplementalRequirements", .array [.null, row])]),
      .defineRequirement " cumberland" "ev" "load_calc" .null,
      .setActive 0 false,
      .addProject (.array [])]
    let store := run empty changes
    store.requirements.flatMap Requirement.keyTexts =
        ["yarmouth", "7", "site_plan", "cumberland", "ev", "load_calc"] ∧
      Sound store ∧ store.HoldsKey "cumberland" ∧
      ∃ change ∈ changes, change.Offers "cumberland" := by
  intro row changes store
  have hkeys : store.requirements.flatMap Requirement.keyTexts =
      ["yarmouth", "7", "site_plan", "cumberland", "ev", "load_calc"] := rfl
  have hmem : "cumberland" ∈ store.requirements.flatMap Requirement.keyTexts := by
    rw [hkeys]
    decide
  obtain ⟨r, hr, htext⟩ := List.mem_flatMap.mp hmem
  have hholds : store.HoldsKey "cumberland" := .requirement hr htext
  exact ⟨hkeys, (run_sound changes).1, hholds, (run_sound changes).2 "cumberland" hholds⟩

end Store

end FilingChecklist
