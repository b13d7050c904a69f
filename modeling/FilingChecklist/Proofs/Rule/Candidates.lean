import FilingChecklist.Proofs.Json.Shape
import FilingChecklist.Proofs.Rule.Gathering

namespace FilingChecklist

open Text (trim trimmed)

/-- Null, or text that is blank. -/
def Operand.IsBlank : Operand → Prop
  | .null => True
  | .text s => trim s.toList = []
  | _ => False

def Json.IsBlank : Json → Prop
  | .null => True
  | .string s => trim s.toList = []
  | _ => False

theorem Operand.isBlank_text_trimmed {s : String} :
    (Operand.text (trimmed s)).IsBlank ↔ trim s.toList = [] := by
  rw [IsBlank, Text.toList_trimmed, Text.trim_trim]

theorem Operand.isBlank_ofText_iff {s : String} :
    (Operand.ofText s).IsBlank ↔ trim s.toList = [] := by
  by_cases hs : trimmed s = ""
  · have hblank : trim s.toList = [] := by rw [← Text.toList_trimmed, hs]; rfl
    have htext : Operand.ofText s = .text "" := by rw [← Operand.ofText_trimmed, hs]; rfl
    rw [htext, hblank]
    exact iff_of_true rfl rfl
  · have hne : trim s.toList ≠ [] := by
      rwa [← Text.toList_trimmed, ne_eq, String.toList_eq_nil_iff]
    rcases Operand.ofText_cases s with ⟨b, htext⟩ | ⟨x, htext⟩ | htext
    · rw [htext]
      exact iff_of_false id hne
    · rw [htext]
      exact iff_of_false id hne
    · rw [htext, isBlank_text_trimmed]

namespace TextMode

theorem isBlank_text_iff (mode : TextMode) {s : String} :
    (mode.text s).IsBlank ↔ trim s.toList = [] := by
  cases mode with
  | coerce => rw [text, Operand.isBlank_ofText_iff]
  | verbatim => rw [text, Operand.isBlank_text_trimmed]

theorem isBlank_operand_iff (mode : TextMode) {v : Json} :
    (mode.operand v).IsBlank ↔ v.IsBlank := by
  cases v with
  | string s => rw [operand, Json.IsBlank, isBlank_text_iff]
  | _ => simp only [operand, Operand.IsBlank, Json.IsBlank]

end TextMode

namespace Expected

variable {mode : TextMode} {s : String}

theorem ofField_string (decode : String → Option Json) :
    ofField decode mode (some (.string s)) = ofText decode mode s := rfl

theorem isSpace_head_trim {c : Char} (hc : (trim s.toList).head? = some c) :
    Json.Token.isSpace c = false := by
  have hblank : Text.isBlank c = false := Text.isBlank_head_trim hc
  cases hspace : Json.Token.isSpace c with
  | false => rfl
  | true =>
      simp only [Json.Token.isSpace, Bool.or_eq_true, beq_iff_eq] at hspace
      rcases hspace with ((rfl | rfl) | rfl) | rfl <;> exact absurd hblank (by decide)

theorem opensJson_iff {v : Json} (h : Json.ofText? (trimmed s) = some v) :
    opensJson (trim s.toList) = true ↔ v.shape ≠ .single := by
  cases hhead : (trim s.toList).head? with
  | none =>
      rw [trimmed, List.head?_eq_none_iff.mp hhead] at h
      cases h
  | some c =>
      have hshape := Json.shape_of_ofText? (by rwa [Text.toList_trimmed])
        (isSpace_head_trim hhead) h
      rw [opensJson, hhead, hshape, Json.Token.shapeOf]
      by_cases hlist : c = '['
      · simp [hlist]
      · by_cases hobject : c = '\x7b'
        · simp [hobject]
        · simp [hlist, hobject]

theorem ofText_of_shape {v : Json} (h : Json.ofText? (trimmed s) = some v)
    (hv : v.shape ≠ .single) : ofText Json.ofText? mode s = ofDecoded mode v := by
  have hopens := (opensJson_iff h).mpr hv
  have hempty : (trim s.toList).isEmpty = false := by
    cases htext : trim s.toList with
    | nil =>
        rw [htext] at hopens
        cases hopens
    | cons c cs => rfl
  rw [trimmed] at h
  simp only [ofText, hempty, hopens, h, Bool.false_eq_true, if_false, if_true]

theorem ofText_of_single (hne : trim s.toList ≠ [])
    (h : ∀ v, Json.ofText? (trimmed s) = some v → v.shape = .single) :
    ofText Json.ofText? mode s = ofParts mode (trim s.toList) := by
  have hempty : (trim s.toList).isEmpty = false := by simpa using hne
  simp only [ofText, hempty, Bool.false_eq_true, if_false]
  cases hread : Json.ofText? (String.ofList (trim s.toList)) with
  | none => split <;> rfl
  | some v =>
      have hopens : opensJson (trim s.toList) = false := by
        rw [← Bool.not_eq_true, opensJson_iff hread, not_not]
        exact h v hread
      rw [hopens]
      rfl

theorem not_isBlank_of_mem_ofParts {text : List Char} (htrim : trim text = text) (hne : text ≠ [])
    {operand : Operand} (hmem : operand ∈ ofParts mode text) : ¬ operand.IsBlank := by
  have htext : ¬ (mode.text (String.ofList text)).IsBlank := by
    rwa [mode.isBlank_text_iff, String.toList_ofList, htrim]
  simp only [ofParts] at hmem
  split at hmem
  · obtain ⟨part, hpart, rfl⟩ := List.mem_map.mp hmem
    obtain ⟨hpart, hfilled⟩ := List.mem_filter.mp hpart
    obtain ⟨raw, -, rfl⟩ := List.mem_map.mp hpart
    rw [mode.isBlank_text_iff, String.toList_ofList, Text.trim_trim]
    simpa using hfilled
  · rwa [List.mem_singleton.mp hmem]

theorem not_isBlank_of_mem_ofDecoded {v : Json} (hlist : v.shape ≠ .list) (hv : ¬ v.IsBlank)
    {operand : Operand} (hmem : operand ∈ ofDecoded mode v) : ¬ operand.IsBlank := by
  have hsingle : operand ∈ [mode.operand v] := by
    cases v with
    | array items => exact absurd rfl hlist
    | _ => exact hmem
  rwa [List.mem_singleton.mp hsingle, mode.isBlank_operand_iff]

theorem not_isBlank_of_mem_ofText
    (h : ∀ v, Json.ofText? (trimmed s) = some v → v.shape ≠ .list) {operand : Operand}
    (hmem : operand ∈ ofText Json.ofText? mode s) : ¬ operand.IsBlank := by
  by_cases hne : trim s.toList = []
  · simp [ofText, hne] at hmem
  · by_cases hsingle : ∀ v, Json.ofText? (trimmed s) = some v → v.shape = .single
    · rw [ofText_of_single hne hsingle] at hmem
      exact not_isBlank_of_mem_ofParts (Text.trim_trim _) hne hmem
    · push Not at hsingle
      obtain ⟨v, hread, hshape⟩ := hsingle
      rw [ofText_of_shape hread hshape] at hmem
      refine not_isBlank_of_mem_ofDecoded (h v hread) ?_ hmem
      -- what is neither a list nor a single value is an object
      cases v with
      | array items => exact absurd rfl (h _ hread)
      | object fields => exact id
      | _ => exact absurd rfl hshape

/-- A field holds these items: it is a list, or a text in which the list is written. -/
inductive Lists (items : List Json) : Json → Prop
  | items : Lists items (.array items)
  | written {s : String} (h : Json.ofText? (trimmed s) = some (.array items)) :
      Lists items (.string s)

theorem Lists.ofField_eq {items : List Json} {field : Json} (h : Lists items field) :
    ofField Json.ofText? mode (some field) = items.map mode.operand := by
  cases h with
  | items => rfl
  | written h => rw [ofField_string, ofText_of_shape h nofun, ofDecoded]

theorem Lists.operand_mem {rule : Object} {name : String} {field item : Json} {items : List Json}
    (hname : name ∈ fieldNames) (hfield : Fields.get? rule name = some field)
    (hitems : Lists items field) (hitem : item ∈ items) :
    mode.operand item ∈ operands Json.ofText? mode rule := by
  refine List.mem_flatMap.mpr ⟨name, hname, ?_⟩
  rw [hfield, hitems.ofField_eq]
  exact List.mem_map_of_mem hitem

theorem not_isBlank_of_mem_ofField {field : Json} (h : ∀ items, ¬ Lists items field)
    {operand : Operand} (hmem : operand ∈ ofField Json.ofText? mode (some field)) :
    ¬ operand.IsBlank := by
  cases field with
  | null => cases hmem
  | string s =>
      rw [ofField_string] at hmem
      refine not_isBlank_of_mem_ofText ?_ hmem
      intro v hread hlist
      cases v with
      | array items => exact h items (.written hread)
      | _ => cases hlist
  | array items => exact absurd .items (h items)
  | bool b => exact @not_isBlank_of_mem_ofDecoded mode (.bool b) nofun id operand hmem
  | number n => exact @not_isBlank_of_mem_ofDecoded mode (.number n) nofun id operand hmem
  | object fields => exact @not_isBlank_of_mem_ofDecoded mode (.object fields) nofun id operand hmem

/-- An operand is null or blank text only if it stands for such an item of a list, and every such
item gives one. All other candidates that are null or blank are dropped. -/
theorem mem_operands_and_isBlank_iff {rule : Object} {operand : Operand} :
    operand ∈ operands Json.ofText? mode rule ∧ operand.IsBlank ↔
      ∃ name ∈ fieldNames, ∃ field items, Fields.get? rule name = some field ∧
        Lists items field ∧ ∃ item ∈ items, item.IsBlank ∧ mode.operand item = operand := by
  rw [operands, List.mem_flatMap]
  constructor
  · rintro ⟨⟨name, hname, hmem⟩, hblank⟩
    cases hfield : Fields.get? rule name with
    | none =>
        rw [hfield] at hmem
        cases hmem
    | some field =>
        rw [hfield] at hmem
        by_cases hlists : ∃ items, Lists items field
        · obtain ⟨items, hitems⟩ := hlists
          rw [hitems.ofField_eq] at hmem
          obtain ⟨item, hitem, rfl⟩ := List.mem_map.mp hmem
          exact ⟨name, hname, field, items, hfield, hitems, item, hitem,
            mode.isBlank_operand_iff.mp hblank, rfl⟩
        · exact absurd hblank (not_isBlank_of_mem_ofField (not_exists.mp hlists) hmem)
  · rintro ⟨name, hname, field, items, hfield, hitems, item, hitem, hblank, rfl⟩
    have hmem : mode.operand item ∈ operands Json.ofText? mode rule :=
      hitems.operand_mem hname hfield hitem
    exact ⟨List.mem_flatMap.mp hmem, mode.isBlank_operand_iff.mpr hblank⟩

/-- The empty items of a list are among the operands in both modes, whether the list is a value or
written in a text. -/
theorem mem_operands_and_isBlank_values :
    let items : List Json := [.string "deck", .null, .string " "]
    let text : Json := .string "[\"deck\", null, \" \"]"
    (∀ values ∈ [.array items, text], ∀ mode,
      Operand.null ∈ operands Json.ofText? mode [("values", values)] ∧
        Operand.text "" ∈ operands Json.ofText? mode [("values", values)]) ∧
      Operand.null.IsBlank ∧ (Operand.text "").IsBlank := by
  intro items text
  have hlists : ∀ values ∈ [.array items, text], Lists items values := by
    have htext : Json.ofText? (trimmed "[\"deck\", null, \" \"]") = some (.array items) := rfl
    simp only [List.forall_mem_cons, List.not_mem_nil, false_imp_iff, implies_true, and_true]
    exact ⟨.items, .written htext⟩
  refine ⟨?_, trivial, rfl⟩
  intro values hvalues mode
  have hname : "values" ∈ fieldNames := by decide
  have hmem {item : Json} (hitem : item ∈ items) :
      mode.operand item ∈ operands Json.ofText? mode [("values", values)] :=
    Lists.operand_mem hname rfl (hlists values hvalues) hitem
  have hblank : mode.operand (.string " ") = .text "" := by
    cases mode <;> rfl
  refine ⟨?_, ?_⟩
  · exact @hmem .null (by simp [items])
  · rw [← hblank]
    exact hmem (by simp [items])

end Expected

end FilingChecklist
