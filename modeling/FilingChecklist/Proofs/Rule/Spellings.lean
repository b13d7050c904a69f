import FilingChecklist.Proofs.Json.Padding
import FilingChecklist.Proofs.Rule.Candidates
import FilingChecklist.Proofs.Text.Joining

namespace FilingChecklist.Expected

open Text (trim trimmed IsTrimmed Joined Padded)

variable {xs : List String} {mode : TextMode}

/-- Texts that can be written in one text with commas between them. The first one must not make the
whole look like JSON. -/
structure CommaSafe (xs : List String) : Prop where
  isTrimmed : ∀ x ∈ xs, IsTrimmed x.toList
  comma_not_mem : ∀ x ∈ xs, ',' ∉ x.toList
  head_plain : ∀ x ∈ xs.head?, opensJson x.toList = false

instance : Decidable (CommaSafe xs) :=
  decidable_of_iff ((∀ x ∈ xs, IsTrimmed x.toList) ∧ (∀ x ∈ xs, ',' ∉ x.toList) ∧
      ∀ x ∈ xs.head?, opensJson x.toList = false)
    ⟨fun h => ⟨h.1, h.2.1, h.2.2⟩, fun h => ⟨h.isTrimmed, h.comma_not_mem, h.head_plain⟩⟩

/-- What a field may hold to expect these texts. -/
inductive Spells (xs : List String) : Json → Prop
  | list : Spells xs (.array (xs.map .string))
  | joined {cs : List Char} (h : Joined ',' (xs.map String.toList) cs) :
      Spells xs (.string (String.ofList cs))
  | written {s : String} {padded : List Char}
      (hread : Json.ofText? s = some (.array (xs.map .string))) (hpadded : Padded s.toList padded) :
      Spells xs (.string (String.ofList padded))

namespace CommaSafe

theorem map_trim (h : CommaSafe xs) :
    (xs.map String.toList).map trim = xs.map String.toList := by
  rw [List.map_map]
  exact List.map_congr_left fun x hx => (h.isTrimmed x hx).trim_eq

theorem forall_isTrimmed (h : CommaSafe xs) : ∀ item ∈ xs.map String.toList, IsTrimmed item :=
  List.forall_mem_map.mpr h.isTrimmed

theorem filter_isEmpty (h : CommaSafe xs) :
    (xs.map String.toList).filter (!·.isEmpty) = xs.map String.toList := by
  apply List.filter_eq_self.mpr
  intro item hitem
  simpa using (h.forall_isTrimmed item hitem).ne_nil

theorem trimmed_eq (h : CommaSafe xs) {x : String} (hx : x ∈ xs) : trimmed x = x := by
  rw [trimmed, (h.isTrimmed x hx).trim_eq, String.ofList_toList]

end CommaSafe

theorem parts_of_joined {text : List Char} (hxs : CommaSafe xs)
    (h : Joined ',' (xs.map String.toList) text) :
    ((Text.parts ',' text).map trim).filter (!·.isEmpty) = xs.map String.toList := by
  have hcomma : ∀ item ∈ xs.map String.toList, ',' ∉ item :=
    List.forall_mem_map.mpr hxs.comma_not_mem
  rw [h.map_trim_parts (by decide) hcomma, hxs.map_trim, hxs.filter_isEmpty]

theorem ofParts_of_joined {text : List Char} (hxs : CommaSafe xs) (htrim : trim text = text)
    (h : Joined ',' (xs.map String.toList) text) : ofParts mode text = xs.map mode.text := by
  simp only [ofParts, parts_of_joined hxs h]
  split
  · simp only [List.map_map, Function.comp_def, String.ofList_toList]
  · next hlength =>
      -- a single text is taken as a whole, and trimmed it is that text
      cases xs with
      | nil => exact absurd rfl h.ne_nil
      | cons x others =>
          cases others with
          | cons y others => exact absurd (by simp) hlength
          | nil =>
              have htext : text = x.toList := by
                cases h with
                | single hpadded =>
                    rw [← htrim, hpadded.trim_eq, (hxs.isTrimmed x List.mem_cons_self).trim_eq]
                | cons _ hrest => exact absurd rfl hrest.ne_nil
              rw [htext, String.ofList_toList, List.map_singleton]

theorem ofField_of_joined {cs : List Char} (hxs : CommaSafe xs)
    (h : Joined ',' (xs.map String.toList) cs) :
    ofField Json.ofText? mode (some (.string (String.ofList cs))) = xs.map mode.text := by
  obtain ⟨htext, hhead⟩ := h.trim (by decide) hxs.forall_isTrimmed
  obtain ⟨x, others, rfl⟩ : ∃ x others, xs = x :: others :=
    List.exists_cons_of_ne_nil fun hnil => h.ne_nil (by rw [hnil, List.map_nil])
  have hplain : opensJson (trim cs) = false := by
    have hx := hxs.head_plain x rfl
    rw [opensJson] at hx ⊢
    rwa [hhead]
  have hne : trim cs ≠ [] := by
    intro hnil
    rw [hnil] at hhead
    exact (hxs.isTrimmed x List.mem_cons_self).ne_nil (List.head?_eq_none_iff.mp hhead.symm)
  have hsingle : ∀ v, Json.ofText? (trimmed (String.ofList cs)) = some v → v.shape = .single := by
    intro v hread
    by_contra hshape
    have hopens := (opensJson_iff hread).mpr hshape
    rw [String.toList_ofList, hplain] at hopens
    cases hopens
  rw [ofField_string, ofText_of_single (by rwa [String.toList_ofList]) hsingle,
    String.toList_ofList, ofParts_of_joined hxs (Text.trim_trim cs) htext]

theorem Spells.ofField_eq {field : Json} (h : Spells xs field) (hxs : CommaSafe xs) :
    ofField Json.ofText? mode (some field) = xs.map mode.text := by
  have hstrings : (xs.map Json.string).map mode.operand = xs.map mode.text := by
    rw [List.map_map]
    rfl
  cases h with
  | list => rw [Lists.items.ofField_eq, hstrings]
  | joined hcs => exact ofField_of_joined hxs hcs
  | @written s padded hread hpadded =>
      have htrimmed : trimmed (String.ofList padded) = trimmed s := by
        rw [trimmed, trimmed, String.toList_ofList, hpadded.trim_eq]
      have hlist : Lists (xs.map .string) (.string (String.ofList padded)) :=
        .written (by rw [htrimmed, Json.ofText?_trimmed hread])
      rw [hlist.ofField_eq, hstrings]

/-- Whichever field holds a list of texts, in whichever spelling: the texts are gathered in their
order, and next to the same other fields the spelling makes no difference. -/
theorem operands_of_spells {name : String} (hname : name ∈ fieldNames) (hxs : CommaSafe xs) :
    (∀ rule field, Fields.get? rule name = some field → Spells xs field →
      (∀ other ∈ fieldNames, other ≠ name → Fields.get? rule other = none) →
      operands Json.ofText? .coerce rule = xs.map Operand.ofText ∧
        operands Json.ofText? .verbatim rule = xs.map Operand.text) ∧
      ∀ rule rule' field field', Fields.get? rule name = some field →
        Fields.get? rule' name = some field' → Spells xs field → Spells xs field' →
        (∀ other ∈ fieldNames, other ≠ name → Fields.get? rule other = Fields.get? rule' other) →
        ∀ mode, operands Json.ofText? mode rule = operands Json.ofText? mode rule' := by
  constructor
  · intro rule field hfield hspells hothers
    rw [operands_of_only _ hname hothers, operands_of_only _ hname hothers, hfield,
      hspells.ofField_eq hxs, hspells.ofField_eq hxs]
    refine ⟨rfl, List.map_congr_left ?_⟩
    intro x hx
    rw [TextMode.text, hxs.trimmed_eq hx]
  · intro rule rule' field field' hfield hfield' hspells hspells' hothers mode
    apply List.flatMap_congr
    intro other hother
    by_cases heq : other = name
    · rw [heq, hfield, hfield', hspells.ofField_eq hxs, hspells'.ofField_eq hxs]
    · rw [hothers other hother heq]

theorem operands_of_spells_options :
    let xs := ["ev", "007", "[x]"]
    let list := Json.array [.string "ev", .string "007", .string "[x]"]
    let joined := Json.string " ev ,\t007,\u00a0[x]\n"
    let written := Json.string "\u00a0[\"ev\", \"007\",\n\"[x]\"] "
    CommaSafe xs ∧
      (∀ field ∈ [list, joined, written],
        operands Json.ofText? .coerce [("options", field)] = xs.map Operand.ofText ∧
          operands Json.ofText? .verbatim [("options", field)] = xs.map Operand.text) ∧
      ∀ field ∈ [list, joined, written], ∀ field' ∈ [list, joined, written], ∀ mode,
        operands Json.ofText? mode [("options", field), ("value", .string "a,b")] =
          operands Json.ofText? mode [("options", field'), ("value", .string "a,b")] := by
  intro xs list joined written
  have hxs : CommaSafe xs := by decide +kernel
  have hname : "options" ∈ fieldNames := by decide
  have hblank {c : Char} (hc : Text.isBlank c = true) : ∀ d ∈ [c], Text.isBlank d = true :=
    List.forall_mem_singleton.mpr hc
  -- only the first text must not begin with a bracket
  have hjoined : Spells xs joined := by
    have hev : Padded "ev".toList " ev ".toList :=
      @Padded.intro _ [' '] [' '] (hblank rfl) (hblank rfl)
    have hnumber : Padded "007".toList "\t007".toList :=
      @Padded.intro _ ['\t'] [] (hblank rfl) nofun
    have hbracket : Padded "[x]".toList "\u00a0[x]\n".toList :=
      @Padded.intro _ ['\u00a0'] ['\n'] (hblank rfl) (hblank rfl)
    exact @Spells.joined xs " ev ,\t007,\u00a0[x]\n".toList
      (.cons hev (.cons hnumber (.single hbracket)))
  have hwritten : Spells xs written := by
    have hread : Json.ofText? "[\"ev\", \"007\",\n\"[x]\"]" = some list := rfl
    have hpadded : Padded "[\"ev\", \"007\",\n\"[x]\"]".toList
        "\u00a0[\"ev\", \"007\",\n\"[x]\"] ".toList :=
      @Padded.intro _ ['\u00a0'] [' '] (hblank rfl) (hblank rfl)
    exact .written hread hpadded
  have hspells : ∀ field ∈ [list, joined, written], Spells xs field := by
    simp only [List.forall_mem_cons, List.not_mem_nil, false_imp_iff, implies_true, and_true]
    exact ⟨.list, hjoined, hwritten⟩
  have hget {other : String} (hother : other ≠ "options") (field : Json) (rest : Object) :
      Fields.get? (("options", field) :: rest) other = Fields.get? rest other := by
    rw [Fields.get?_cons, if_neg (Ne.symm hother)]
  obtain ⟨hgathered, hagree⟩ := operands_of_spells hname hxs
  refine ⟨hxs, ?_, ?_⟩
  · intro field hfield
    apply hgathered [("options", field)] field rfl (hspells field hfield)
    intro other _ hother
    rw [hget hother, Fields.get?_nil]
  · intro field hfield field' hfield'
    apply hagree _ _ field field' rfl rfl (hspells field hfield) (hspells field' hfield')
    intro other _ hother
    rw [hget hother, hget hother]

end FilingChecklist.Expected
