import Mathlib.Data.List.Forall2
import FilingChecklist.Proofs.Fields
import FilingChecklist.Proofs.Rule.Gathering
import FilingChecklist.Proofs.Rule.Nesting

/-!
White space around the texts of a rule source. Wherever a reader takes a text it takes it trimmed,
so two sources that differ only in such white space are one rule. Only the objects among the
expected operands are compared as they are, and have to be the same.
-/

namespace FilingChecklist.Source

open Text (trim trimmed)

/-- Expected operands that differ in white space around texts, but not inside objects. -/
inductive OperandRespaced : Json → Json → Prop
  | same (v : Json) : OperandRespaced v v
  | text {s s' : String} (h : trimmed s = trimmed s') : OperandRespaced (.string s) (.string s')
  | list {items items' : List Json} (hlength : items.length = items'.length)
      (hitems : ∀ (i : Nat) (h : i < items.length) (h' : i < items'.length),
        OperandRespaced items[i] items'[i]) :
      OperandRespaced (.array items) (.array items')

/-- Sources that differ in white space around texts. The keys of objects are the same, and so are
the objects among expected operands. -/
inductive Respaced : Json → Json → Prop
  | same (v : Json) : Respaced v v
  | text {s s' : String} (h : trimmed s = trimmed s') : Respaced (.string s) (.string s')
  | list {items items' : List Json} (hlength : items.length = items'.length)
      (hitems : ∀ (i : Nat) (h : i < items.length) (h' : i < items'.length),
        Respaced items[i] items'[i]) :
      Respaced (.array items) (.array items')
  | object {fields fields' : Object} (hkeys : Fields.keys fields = Fields.keys fields')
      (hoperands : ∀ name ∈ Expected.fieldNames, ∀ v v', Fields.get? fields name = some v →
        Fields.get? fields' name = some v' → OperandRespaced v v')
      (hothers : ∀ name, name ∉ Expected.fieldNames → ∀ v v', Fields.get? fields name = some v →
        Fields.get? fields' name = some v' → Respaced v v') :
      Respaced (.object fields) (.object fields')

inductive EntryRespaced : String × Json → String × Json → Prop
  | operand {name : String} {v v' : Json} (hname : name ∈ Expected.fieldNames)
      (h : OperandRespaced v v') : EntryRespaced (name, v) (name, v')
  | other {name : String} {v v' : Json} (hname : name ∉ Expected.fieldNames)
      (h : Respaced v v') : EntryRespaced (name, v) (name, v')

inductive Form.Respaced : Form → Form → Prop
  | same (outer : Form) : Respaced outer outer
  | group (kind : Combinator) {children children' : List Json}
      (h : List.Forall₂ Source.Respaced children children') :
      Respaced (.group kind children) (.group kind children')
  | negated {child child' : Json} (h : Source.Respaced child child') :
      Respaced (.negated child) (.negated child')

theorem Respaced.list_of_forall₂ {items items' : List Json}
    (h : List.Forall₂ Respaced items items') : Respaced (.array items) (.array items') :=
  .list h.length_eq h.get

theorem EntryRespaced.fst_eq {entry entry' : String × Json} (h : EntryRespaced entry entry') :
    entry.1 = entry'.1 := by
  cases h <;> rfl

theorem exists_entry_of_get? {fields fields' : Object}
    (h : List.Forall₂ EntryRespaced fields fields') {name : String} {v v' : Json}
    (hv : Fields.get? fields name = some v) (hv' : Fields.get? fields' name = some v') :
    EntryRespaced (name, v) (name, v') := by
  induction h with
  | nil => cases hv
  | @cons entry entry' rest rest' hentry _ ih =>
      obtain ⟨first, value⟩ := entry
      obtain ⟨first', value'⟩ := entry'
      obtain rfl : first = first' := hentry.fst_eq
      rw [Fields.get?_cons] at hv hv'
      split at hv
      · next heq =>
          rw [if_pos heq] at hv'
          obtain rfl := heq
          obtain rfl := Option.some.inj hv
          obtain rfl := Option.some.inj hv'
          exact hentry
      · next hne =>
          rw [if_neg hne] at hv'
          exact ih hv hv'

theorem Respaced.object_of_forall₂ {fields fields' : Object}
    (h : List.Forall₂ EntryRespaced fields fields') :
    Respaced (.object fields) (.object fields') := by
  refine .object ?_ ?_ ?_
  · induction h with
    | nil => rfl
    | cons hentry _ ih => rw [Fields.keys_cons, Fields.keys_cons, hentry.fst_eq, ih]
  · intro name hname v v' hv hv'
    cases exists_entry_of_get? h hv hv' with
    | operand _ h => exact h
    | other hother _ => exact absurd hname hother
  · intro name hname v v' hv hv'
    cases exists_entry_of_get? h hv hv' with
    | operand hoperand _ => exact absurd hoperand hname
    | other _ h => exact h

theorem OperandRespaced.respaced {v v' : Json} (h : OperandRespaced v v') : Respaced v v' := by
  induction h with
  | same v => exact .same v
  | text h => exact .text h
  | list hlength _ ih => exact .list hlength ih

theorem trim_eq_of_trimmed_eq {s s' : String} (h : trimmed s = trimmed s') :
    trim s.toList = trim s'.toList := by
  rw [← Text.toList_trimmed, h, Text.toList_trimmed]

theorem text_eq_of_trimmed_eq (mode : TextMode) {s s' : String} (h : trimmed s = trimmed s') :
    mode.text s = mode.text s' := by
  cases mode with
  | coerce => rw [TextMode.text, TextMode.text, ← Operand.ofText_trimmed, h, Operand.ofText_trimmed]
  | verbatim => rw [TextMode.text, TextMode.text, h]

theorem OperandRespaced.operand_eq (mode : TextMode) {v v' : Json} (h : OperandRespaced v v') :
    mode.operand v = mode.operand v' := by
  induction h with
  | same v => rfl
  | text h => exact text_eq_of_trimmed_eq mode h
  | @list items items' hlength _ ih =>
      have hitems : items.map mode.operand = items'.map mode.operand := by
        refine List.ext_getElem (by simp [hlength]) fun i hi hi' => ?_
        simp only [List.length_map] at hi hi'
        rw [List.getElem_map, List.getElem_map, ih i hi hi']
      rw [TextMode.operand, TextMode.operand, TextMode.operands_eq_map, TextMode.operands_eq_map,
        hitems]

theorem OperandRespaced.ofField_eq (decode : String → Option Json) (mode : TextMode) {v v' : Json}
    (h : OperandRespaced v v') :
    Expected.ofField decode mode (some v) = Expected.ofField decode mode (some v') := by
  cases h with
  | same v => rfl
  | text h => simp only [Expected.ofField, Expected.ofText, trim_eq_of_trimmed_eq h]
  | @list items items' hlength hitems =>
      have hlist := (OperandRespaced.list hlength hitems).operand_eq mode
      simpa [TextMode.operand, Expected.ofField, Expected.ofDecoded] using hlist

section

variable {α β γ δ : Type} {r : α → β → Prop} {t : γ → δ → Prop} {o : Option α} {o' : Option β}

theorem rel_bind (h : Option.Rel r o o') {f : α → Option γ} {g : β → Option δ}
    (hf : ∀ v v', r v v' → Option.Rel t (f v) (g v')) : Option.Rel t (o.bind f) (o'.bind g) := by
  cases h with
  | some h => exact hf _ _ h
  | none => exact .none

theorem rel_map (h : Option.Rel r o o') {f : α → γ} {g : β → δ}
    (hf : ∀ v v', r v v' → t (f v) (g v')) : Option.Rel t (o.map f) (o'.map g) := by
  cases h with
  | some h => exact .some (hf _ _ h)
  | none => exact .none

theorem bind_eq_of_rel (h : Option.Rel r o o') {f : α → Option γ} {g : β → Option γ}
    (hf : ∀ v v', r v v' → f v = g v') : o.bind f = o'.bind g := by
  cases h with
  | some h => exact hf _ _ h
  | none => rfl

theorem rel_of_eq {r : α → α → Prop} (hrefl : ∀ x, r x x) {o o' : Option α} (h : o = o') :
    Option.Rel r o o' := by
  subst h
  cases o with
  | some x => exact .some (hrefl x)
  | none => exact .none

theorem rel_orElse {first : Option α} {first' : Option β} (h : Option.Rel r first first')
    (hrest : Option.Rel r o o') : Option.Rel r (first <|> o) (first' <|> o') := by
  cases h with
  | some h => exact .some h
  | none => exact hrest

theorem getD_of_rel (h : Option.Rel r o o') {x : α} {y : β} (hxy : r x y) :
    r (o.getD x) (o'.getD y) := by
  cases h with
  | some h => exact h
  | none => exact hxy

theorem rel_findSome? {xs : List γ} {f : γ → Option α} {g : γ → Option β}
    (h : ∀ x ∈ xs, Option.Rel r (f x) (g x)) : Option.Rel r (xs.findSome? f) (xs.findSome? g) := by
  induction xs with
  | nil => exact .none
  | cons x xs ih =>
      obtain ⟨hx, hxs⟩ := List.forall_mem_cons.mp h
      rw [List.findSome?_cons, List.findSome?_cons]
      generalize f x = first, g x = first' at hx
      cases hx with
      | some hx => exact .some hx
      | none => exact ih hxs

end

section

variable {rule rule' : Object} {v v' : Json}

theorem Respaced.string?_bind_eq {α : Type} (h : Respaced v v') {read : String → Option α}
    (hread : ∀ s s', trimmed s = trimmed s' → read s = read s') :
    v.string?.bind read = v'.string?.bind read := by
  cases h with
  | text h => exact hread _ _ h
  | _ => rfl

theorem Respaced.array?_rel (h : Respaced v v') :
    Option.Rel (List.Forall₂ Respaced) v.array? v'.array? := by
  cases h with
  | same v => exact rel_of_eq (fun items => List.forall₂_same.mpr fun item _ => .same item) rfl
  | list hlength hitems => exact .some (List.forall₂_iff_get.mpr ⟨hlength, hitems⟩)
  | _ => exact .none

theorem Respaced.isNull_eq (h : Respaced v v') : v.isNull = v'.isNull := by
  cases h <;> rfl

theorem Respaced.boolLike?_eq (h : Respaced v v') :
    Attribute.boolLike? v = Attribute.boolLike? v' := by
  cases h with
  | text h => simp only [Attribute.boolLike?, h]
  | _ => rfl

theorem rel_get? {r : Json → Json → Prop} (hkeys : Fields.keys rule = Fields.keys rule')
    {name : String} (h : ∀ v v', Fields.get? rule name = some v →
      Fields.get? rule' name = some v' → r v v') :
    Option.Rel r (Fields.get? rule name) (Fields.get? rule' name) := by
  have hnone : Fields.get? rule name = none ↔ Fields.get? rule' name = none := by
    rw [Fields.get?_eq_none_iff, Fields.get?_eq_none_iff, hkeys]
  cases hv : Fields.get? rule name with
  | none =>
      rw [hnone.mp hv]
      exact .none
  | some v =>
      cases hv' : Fields.get? rule' name with
      | none =>
          rw [hnone.mpr hv'] at hv
          cases hv
      | some v' => exact .some (h v v' hv hv')

theorem get?_operand_rel (h : Respaced (.object rule) (.object rule')) {name : String}
    (hname : name ∈ Expected.fieldNames) :
    Option.Rel OperandRespaced (Fields.get? rule name) (Fields.get? rule' name) := by
  cases h with
  | same => exact rel_of_eq .same rfl
  | object hkeys hoperands _ => exact rel_get? hkeys (hoperands name hname)

theorem get?_rel (h : Respaced (.object rule) (.object rule')) (name : String) :
    Option.Rel Respaced (Fields.get? rule name) (Fields.get? rule' name) := by
  cases h with
  | same => exact rel_of_eq .same rfl
  | object hkeys hoperands hothers =>
      refine rel_get? hkeys fun v v' hv hv' => ?_
      by_cases hname : name ∈ Expected.fieldNames
      · exact (hoperands name hname v v' hv hv').respaced
      · exact hothers name hname v v' hv hv'

theorem first?_rel {α β : Type} {r : α → β → Prop} (h : Respaced (.object rule) (.object rule'))
    (names : List String) {read : Json → Option α} {read' : Json → Option β}
    (hread : ∀ v v', Respaced v v' → Option.Rel r (read v) (read' v')) :
    Option.Rel r (Fields.first? rule names read) (Fields.first? rule' names read') :=
  rel_findSome? fun name _ => rel_bind (get?_rel h name) hread

theorem first?_eq_of_respaced {α : Type} (h : Respaced (.object rule) (.object rule'))
    (names : List String) {read : Json → Option α}
    (hread : ∀ v v', Respaced v v' → read v = read v') :
    Fields.first? rule names read = Fields.first? rule' names read := by
  rw [Fields.first?, Fields.first?]
  congr 1
  funext name
  exact bind_eq_of_rel (get?_rel h name) hread

theorem loweredField_eq_of_respaced (h : Respaced (.object rule) (.object rule')) (name : String) :
    loweredField rule name = loweredField rule' name := by
  simp only [loweredField, Option.map_eq_bind, Option.bind_assoc]
  refine bind_eq_of_rel (get?_rel h name) fun v v' hv => hv.string?_bind_eq fun s s' hs => ?_
  rw [Function.comp_apply, Function.comp_apply, hs]

theorem firstText?_eq_of_respaced (h : Respaced (.object rule) (.object rule'))
    (names : List String) : firstText? rule names = firstText? rule' names := by
  refine first?_eq_of_respaced h names fun v v' hv => hv.string?_bind_eq fun s s' hs => ?_
  rw [nonBlank?, nonBlank?, hs]

theorem namedKind?_eq_of_respaced (h : Respaced (.object rule) (.object rule')) :
    namedKind? rule = namedKind? rule' := by
  simp only [namedKind?, loweredField_eq_of_respaced h]

theorem constantForm?_eq_of_respaced (h : Respaced (.object rule) (.object rule')) :
    constantForm? rule = constantForm? rule' := by
  simp only [constantForm?, loweredField_eq_of_respaced h]

theorem keyedForm?_rel (h : Respaced (.object rule) (.object rule')) :
    Option.Rel Form.Respaced (keyedForm? rule) (keyedForm? rule') := by
  refine rel_findSome? fun kind _ => ?_
  have hitems := rel_bind (get?_rel h kind.name) fun _ _ hv => hv.array?_rel
  exact rel_map hitems fun _ _ => .group kind

theorem notForm?_rel (h : Respaced (.object rule) (.object rule')) :
    Option.Rel Form.Respaced (notForm? rule) (notForm? rule') :=
  rel_map (get?_rel h "not") fun _ _ hchild => .negated hchild

theorem namedForm?_rel (h : Respaced (.object rule) (.object rule')) :
    Option.Rel Form.Respaced (namedForm? rule) (namedForm? rule') := by
  rw [namedForm?, namedForm?, namedKind?_eq_of_respaced h]
  have hitems := getD_of_rel (first?_rel h childFields fun _ _ hv => hv.array?_rel) .nil
  cases namedKind? rule' with
  | none => exact .none
  | some kind => exact .some (.group kind hitems)

theorem namedNegation?_rel (h : Respaced (.object rule) (.object rule')) :
    Option.Rel Form.Respaced (namedNegation? rule) (namedNegation? rule') := by
  rw [namedNegation?, namedNegation?, loweredField_eq_of_respaced h]
  split
  · exact rel_map (first?_rel h negatedFields fun _ _ hv => .some hv) fun _ _ hv => .negated hv
  · exact .none

theorem constantCondition_eq_of_respaced (h : Respaced (.object rule) (.object rule'))
    (operatorName : String) :
    constantCondition rule operatorName = constantCondition rule' operatorName := by
  have hread : ∀ v v', Respaced v v' → Option.Rel Respaced v.nonNull? v'.nonNull? := by
    intro v v' hv
    rw [Json.nonNull?, Json.nonNull?, hv.isNull_eq]
    split
    · exact .none
    · exact .some hv
  have hvalue := bind_eq_of_rel (first?_rel h resultFields hread) fun _ _ hv => hv.boolLike?_eq
  rw [constantCondition, constantCondition, hvalue]

variable (decode : String → Option Json)

theorem operands_eq_of_respaced (h : Respaced (.object rule) (.object rule')) (mode : TextMode) :
    Expected.operands decode mode rule = Expected.operands decode mode rule' := by
  apply List.flatMap_congr
  intro name hname
  have hrel := get?_operand_rel h hname
  generalize Fields.get? rule name = field, Fields.get? rule' name = field' at hrel
  cases hrel with
  | some hv => exact hv.ofField_eq decode mode
  | none => rfl

theorem condition_eq_of_respaced (h : Respaced (.object rule) (.object rule')) :
    condition decode rule = condition decode rule' := by
  simp only [condition, firstText?_eq_of_respaced h, constantCondition_eq_of_respaced h,
    operands_eq_of_respaced decode h]

theorem textForm_eq_of_trimmed_eq {s s' : String} (h : trimmed s = trimmed s') :
    textForm decode s = textForm decode s' := by
  simp only [textForm, h]

theorem objectForm_respaced (h : Respaced (.object rule) (.object rule')) :
    Form.Respaced (objectForm decode rule) (objectForm decode rule') := by
  refine getD_of_rel ?_ ?_
  · exact rel_orElse (rel_of_eq .same (constantForm?_eq_of_respaced h)) <|
      rel_orElse (keyedForm?_rel h) <| rel_orElse (notForm?_rel h) <|
      rel_orElse (namedForm?_rel h) (namedNegation?_rel h)
  · rw [condition_eq_of_respaced decode h]
    exact .same _

theorem form_respaced (h : Respaced v v') :
    Form.Respaced (form decode v) (form decode v') := by
  cases h with
  | same v => exact .same _
  | text h =>
      rw [form, form, textForm_eq_of_trimmed_eq decode h]
      exact .same _
  | list hlength hitems => exact .group .all (List.forall₂_iff_get.mpr ⟨hlength, hitems⟩)
  | object hkeys hoperands hothers =>
      exact objectForm_respaced decode (.object hkeys hoperands hothers)

end

theorem Form.Respaced.build_eq {outer outer' : Form} (h : Form.Respaced outer outer')
    {tree : Json → Rule} (htree : ∀ u u', Source.Respaced u u' → tree u = tree u') :
    outer.build tree = outer'.build tree := by
  cases h with
  | same => rfl
  | @group kind children children' hchildren =>
      have htrees : List.Forall₂ (· = ·) (children.map tree) (children'.map tree) := by
        rw [List.forall₂_map_left_iff, List.forall₂_map_right_iff]
        exact hchildren.imp htree
      rw [List.forall₂_eq_eq_eq] at htrees
      exact congrArg (Rule.combinator kind) htrees
  | negated hchild => exact congrArg Rule.negation (htree _ _ hchild)

theorem read_eq_of_respaced (decode : String → Option Json) (levels : Nat) {source source' : Json}
    (h : Respaced source source') : read decode levels source = read decode levels source' := by
  induction levels generalizing source source' with
  | zero => rfl
  | succ levels ih =>
      rw [read_succ, read_succ]
      exact (form_respaced decode h).build_eq fun _ _ => ih

/-- White space around the texts of a rule source, other than in objects among the expected
operands, does not change the rule. -/
theorem ofSource_eq_of_respaced {source source' : Json} (h : Respaced source source') :
    Rule.ofSource source = Rule.ofSource source' :=
  read_eq_of_respaced Json.ofText? _ h

/-- White space in a truth value, in JSON and around it, in the name of a combination, in a key, an
operator and an operand, but not in the object among the operands. -/
theorem ofSource_eq_of_respaced_catalog_row :
    let test (key operatorName value : String) : Json :=
      .object [("fact", .string key), ("op", .string operatorName),
        ("values", .array [.string value, .object [("note", .string " x")]])]
    let source (padding : String) : Json :=
      .object [("rules", .array [.string (padding ++ "FALSE"), .string ("[true]" ++ padding),
        test (padding ++ "zone") ("Contains" ++ padding) (padding ++ "R1")]),
        ("type", .string ("OR" ++ padding))]
    Respaced (source "") (source " \n") ∧
      Rule.ofSource (source "") = Rule.ofSource (source " \n") := by
  intro test source
  have htest : Respaced (test "zone" "Contains" "R1") (test " \nzone" "Contains \n" " \nR1") := by
    refine .object_of_forall₂ (.cons (.other (by decide) (.text rfl))
      (.cons (.other (by decide) (.text rfl)) (.cons (.operand (by decide) ?_) .nil)))
    refine .list rfl fun i hi hi' => ?_
    match i with
    | 0 => exact .text rfl
    | 1 => exact .same _
  have hrespaced : Respaced (source "") (source " \n") := by
    refine .object_of_forall₂ (.cons (.other (by decide) ?_) (.cons (.other (by decide) (.text rfl))
      .nil))
    exact .list_of_forall₂ (.cons (.text rfl) (.cons (.text rfl) (.cons htest .nil)))
  exact ⟨hrespaced, ofSource_eq_of_respaced hrespaced⟩

end FilingChecklist.Source
