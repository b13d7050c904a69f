import FilingChecklist.Proofs.Fields
import FilingChecklist.Proofs.Rule.Conditions
import FilingChecklist.Proofs.Rule.Encoded

namespace FilingChecklist.Source

open Text (asciiLower trimmed)

/-- The second source is the first, with the rule `v` replaced by `w` in one place where a rule
stands. -/
inductive Replaces (v w : Json) : Json → Json → Prop
  | here : Replaces v w v w
  /-- in a bare list -/
  | item {u u' : Json} (before after : List Json) (hinner : Replaces v w u u') :
      Replaces v w (.array (before ++ u :: after)) (.array (before ++ u' :: after))
  /-- in the list under `all`, `any` or `none` -/
  | keyed {u u' : Json} {rule : Object} (kind : Combinator) (before after : List Json)
      (hfield : Fields.get? rule kind.name = some (.array (before ++ u :: after)))
      (hinner : Replaces v w u u') :
      Replaces v w (.object rule)
        (.object (rule.insert kind.name (.array (before ++ u' :: after))))
  /-- in the list of children of a combination that is named -/
  | named {u u' : Json} {rule : Object} {kind : Combinator} {name : String}
      (before after : List Json) (hkind : namedKind? rule = some kind)
      (hfield : Fields.First rule childFields (fun field => ∃ items, field = .array items) name
        (.array (before ++ u :: after)))
      (hinner : Replaces v w u u') :
      Replaces v w (.object rule) (.object (rule.insert name (.array (before ++ u' :: after))))
  /-- under `not` -/
  | denied {u u' : Json} {rule : Object} (hfield : Fields.get? rule "not" = some u)
      (hinner : Replaces v w u u') :
      Replaces v w (.object rule) (.object (rule.insert "not" u'))
  /-- as the child of `type: not`, unless the object names a combination and is read as that -/
  | namedDenied {u u' : Json} {rule : Object} {name : String}
      (htype : loweredField rule "type" = some "not") (hkind : namedKind? rule = none)
      (hfield : Fields.First rule negatedFields (fun _ => True) name u)
      (hinner : Replaces v w u u') :
      Replaces v w (.object rule) (.object (rule.insert name u'))

/-- The second form is the first, with `u` replaced by `u'` in at most one place. -/
inductive Form.Replaces (u u' : Json) : Form → Form → Prop
  | same (outer : Form) : Replaces u u' outer outer
  | group (kind : Combinator) (before after : List Json) :
      Replaces u u' (.group kind (before ++ u :: after)) (.group kind (before ++ u' :: after))
  | negated : Replaces u u' (.negated u) (.negated u')

variable {rule : Object} {name : String} {field : Json}

theorem loweredField_insert {other : String} (hne : name ≠ other) :
    loweredField (rule.insert name field) other = loweredField rule other := by
  rw [loweredField, loweredField, Fields.get?_insert, if_neg hne]

theorem constantForm?_insert (hne : name ≠ "type") :
    constantForm? (rule.insert name field) = constantForm? rule := by
  rw [constantForm?, constantForm?, loweredField_insert hne]

theorem keyedForm?_insert (hne : ∀ kind ∈ [Combinator.all, .any, .noneOf], name ≠ kind.name) :
    keyedForm? (rule.insert name field) = keyedForm? rule := by
  simp only [List.forall_mem_cons] at hne
  obtain ⟨hall, hany, hnone, -⟩ := hne
  simp only [keyedForm?, List.findSome?_cons, List.findSome?_nil, Fields.get?_insert, hall, hany,
    hnone, if_false]

theorem notForm?_insert (hne : name ≠ "not") :
    notForm? (rule.insert name field) = notForm? rule := by
  rw [notForm?, notForm?, Fields.get?_insert, if_neg hne]

theorem namedKind?_insert (htype : name ≠ "type") (hcombinator : name ≠ "combinator")
    (hcondition : name ≠ "condition") :
    namedKind? (rule.insert name field) = namedKind? rule := by
  rw [namedKind?, namedKind?, loweredField_insert htype, loweredField_insert hcombinator,
    loweredField_insert hcondition]

section

variable {u u' : Json}

theorem Form.replaces_orElse {front last last' : Option Form} {outer outer' : Form}
    (h : Form.Replaces u u' (last.getD outer) (last'.getD outer')) :
    Form.Replaces u u' ((front <|> last).getD outer) ((front <|> last').getD outer') := by
  cases front with
  | none => exact h
  | some first => exact .same first

theorem Form.replaces_findSome? {f g : Combinator → Option Form} {kind : Combinator}
    {outer outer' : Form} (hf : f kind = some outer) (hg : g kind = some outer')
    (hreplaces : Form.Replaces u u' outer outer')
    (hother : ∀ other, other ≠ kind → g other = f other)
    {kinds : List Combinator} (hmem : kind ∈ kinds) :
    ∃ first first', kinds.findSome? f = some first ∧ kinds.findSome? g = some first' ∧
      Form.Replaces u u' first first' := by
  induction kinds with
  | nil => cases hmem
  | cons other kinds ih =>
      by_cases heq : other = kind
      · subst heq
        exact ⟨outer, outer', by simp [hf], by simp [hg], hreplaces⟩
      · have hkinds : kind ∈ kinds := List.mem_of_ne_of_mem (Ne.symm heq) hmem
        rw [List.findSome?_cons, List.findSome?_cons, hother other heq]
        cases f other with
        | none => exact ih hkinds
        | some first => exact ⟨first, first, rfl, rfl, .same first⟩

theorem keyedForm?_replaces (u' : Json) {kind : Combinator} {before after : List Json}
    (hfield : Fields.get? rule kind.name = some (.array (before ++ u :: after))) :
    ∃ outer outer', keyedForm? rule = some outer ∧
      keyedForm? (rule.insert kind.name (.array (before ++ u' :: after))) = some outer' ∧
      Form.Replaces u u' outer outer' := by
  have hmem : kind ∈ [Combinator.all, .any, .noneOf] := by
    cases kind <;> decide
  refine Form.replaces_findSome? ?_ ?_ (.group kind before after) ?_ hmem
  · rw [hfield]
    rfl
  · rw [Fields.get?_insert, if_pos rfl]
    rfl
  · intro other hne
    have hname : kind.name ≠ other.name := fun h => hne (Combinator.name_injective h).symm
    rw [Fields.get?_insert, if_neg hname]

theorem namedForm?_of_first {kind : Combinator} {items : List Json}
    (hkind : namedKind? rule = some kind)
    (hfield : Fields.First rule childFields (fun field => ∃ items, field = .array items) name
      (.array items)) :
    namedForm? rule = some (.group kind items) := by
  have hfirst : Fields.first? rule childFields Json.array? = some items :=
    Fields.first?_array?_eq_some_iff.mpr ⟨name, hfield⟩
  rw [namedForm?, hkind, hfirst]
  rfl

theorem namedNegation?_of_first (htype : loweredField rule "type" = some "not")
    (hfield : Fields.First rule negatedFields (fun _ => True) name u) :
    namedNegation? rule = some (.negated u) := by
  have hfirst : Fields.first? rule negatedFields some = some u :=
    Fields.first?_some_eq_some_iff.mpr ⟨name, hfield⟩
  rw [namedNegation?, if_pos htype, hfirst]
  rfl

variable {decode : String → Option Json}

theorem form_replaces_keyed {kind : Combinator} {before after : List Json}
    (hfield : Fields.get? rule kind.name = some (.array (before ++ u :: after))) :
    Form.Replaces u u' (form decode (.object rule))
      (form decode (.object (rule.insert kind.name (.array (before ++ u' :: after))))) := by
  obtain ⟨outer, outer', hkeyed, hkeyed', hreplaces⟩ := keyedForm?_replaces u' hfield
  have hname : kind.name ≠ "type" := by cases kind <;> decide
  rw [form, form, objectForm, objectForm, constantForm?_insert hname, hkeyed, hkeyed']
  exact Form.replaces_orElse hreplaces

theorem form_replaces_named {kind : Combinator} {before after : List Json}
    (hkind : namedKind? rule = some kind)
    (hfield : Fields.First rule childFields (fun field => ∃ items, field = .array items) name
      (.array (before ++ u :: after))) :
    Form.Replaces u u' (form decode (.object rule))
      (form decode (.object (rule.insert name (.array (before ++ u' :: after))))) := by
  have hnames : ∀ n ∈ childFields, n ≠ "type" ∧ n ≠ "combinator" ∧ n ≠ "condition" ∧ n ≠ "not" ∧
      ∀ kind ∈ [Combinator.all, .any, .noneOf], n ≠ kind.name := by
    decide
  obtain ⟨htype, hcombinator, hcondition, hnot, hkeyed⟩ := hnames name hfield.mem
  have hkind' : namedKind? (rule.insert name (.array (before ++ u' :: after))) = some kind := by
    rw [namedKind?_insert htype hcombinator hcondition, hkind]
  have hfield' := hfield.insert ⟨before ++ u' :: after, rfl⟩
  rw [form, form, objectForm, objectForm, constantForm?_insert htype, keyedForm?_insert hkeyed,
    notForm?_insert hnot, namedForm?_of_first hkind hfield, namedForm?_of_first hkind' hfield']
  refine Form.replaces_orElse (Form.replaces_orElse (Form.replaces_orElse ?_))
  exact .group kind before after

theorem form_replaces_denied (hfield : Fields.get? rule "not" = some u) :
    Form.Replaces u u' (form decode (.object rule))
      (form decode (.object (rule.insert "not" u'))) := by
  have hform : notForm? rule = some (.negated u) := by rw [notForm?, hfield]; rfl
  have hform' : notForm? (rule.insert "not" u') = some (.negated u') := by
    rw [notForm?, Fields.get?_insert, if_pos rfl]
    rfl
  rw [form, form, objectForm, objectForm, constantForm?_insert (by decide),
    keyedForm?_insert (by decide), hform, hform']
  refine Form.replaces_orElse (Form.replaces_orElse ?_)
  exact .negated

end

variable {s : String} {v source source' : Json}

/-- The text is not the name of a combination. -/
theorem Replaces.loweredField_ne {u u' : Json} (hs : Json.ofText? s = some v)
    (hreplaced : Replaces v (.string s) u u') :
    ∀ word ∈ ["and", "or"], loweredField (rule.insert name u') name ≠ some word := by
  intro word hword hlowered
  have hwords : ∀ w ∈ ["and", "or"], w.toList.any Json.Token.endsBare = false ∧
      w.toList.all Decimal.isNumeric = false ∧ w ≠ "null" ∧ w ≠ "true" ∧ w ≠ "false" := by
    decide
  obtain ⟨hbare, hletter, hnull, htrue, hfalse⟩ := hwords word hword
  rw [loweredField, Fields.get?_insert, if_pos rfl] at hlowered
  cases hreplaced with
  | here =>
      have hlower : asciiLower (trimmed s) = word := Option.some.inj hlowered
      have hread := Json.ofText?_of_asciiLower hlower hbare hletter (Json.ofText?_trimmed hs)
      simp [hnull, htrue, hfalse] at hread
  -- only a text can be a name
  | item | keyed | named | denied | namedDenied => cases hlowered

theorem namedKind?_insert_of_replaces {u u' : Json} (hs : Json.ofText? s = some v)
    (hreplaced : Replaces v (.string s) u u') (htype : name ≠ "type")
    (hcombinator : name ≠ "combinator") (hkind : namedKind? rule = none) :
    namedKind? (rule.insert name u') = none := by
  by_cases hcondition : name = "condition"
  · subst hcondition
    have hnames := (namedKind?_eq_none_iff.mp hkind).1
    refine namedKind?_eq_none_iff.mpr ⟨?_, hreplaced.loweredField_ne hs⟩
    intro word hword
    rw [loweredField_insert htype, loweredField_insert hcombinator]
    exact hnames word hword
  · rw [namedKind?_insert htype hcombinator hcondition, hkind]

theorem form_replaces_namedDenied {u u' : Json} {decode : String → Option Json}
    (hs : Json.ofText? s = some v) (hreplaced : Replaces v (.string s) u u')
    (hdenied : loweredField rule "type" = some "not") (hkind : namedKind? rule = none)
    (hfield : Fields.First rule negatedFields (fun _ => True) name u) :
    Form.Replaces u u' (form decode (.object rule))
      (form decode (.object (rule.insert name u'))) := by
  have hnames : ∀ n ∈ negatedFields, n ≠ "type" ∧ n ≠ "combinator" ∧ n ≠ "not" ∧
      ∀ kind ∈ [Combinator.all, .any, .noneOf], n ≠ kind.name := by
    decide
  obtain ⟨htype, hcombinator, hnot, hkeyed⟩ := hnames name hfield.mem
  have hkind' : namedKind? (rule.insert name u') = none :=
    namedKind?_insert_of_replaces hs hreplaced htype hcombinator hkind
  have hdenied' : loweredField (rule.insert name u') "type" = some "not" := by
    rw [loweredField_insert htype, hdenied]
  have hnegation := namedNegation?_of_first hdenied hfield
  have hnegation' := namedNegation?_of_first hdenied' (hfield.insert trivial)
  rw [form, form, objectForm, objectForm, constantForm?_insert htype, keyedForm?_insert hkeyed,
    notForm?_insert hnot, namedForm?, namedForm?, hkind, hkind', hnegation, hnegation']
  refine Form.replaces_orElse (Form.replaces_orElse (Form.replaces_orElse ?_))
  exact .negated

theorem Form.Replaces.build_eq {u u' : Json} {outer outer' : Form} {tree : Json → Rule}
    {readable : Json → Prop} (hreplaces : Form.Replaces u u' outer outer')
    (hinner : readable u' → readable u ∧ tree u' = tree u)
    (hreadable : ∀ child ∈ outer'.inner, readable child) :
    (∀ child ∈ outer.inner, readable child) ∧ outer'.build tree = outer.build tree := by
  cases hreplaces with
  | same outer => exact ⟨hreadable, rfl⟩
  | group kind before after =>
      simp only [Form.inner, List.forall_mem_append, List.forall_mem_cons] at hreadable ⊢
      obtain ⟨hbefore, hu', hafter⟩ := hreadable
      obtain ⟨hu, htree⟩ := hinner hu'
      refine ⟨⟨hbefore, hu, hafter⟩, ?_⟩
      simp only [Form.build, List.map_append, List.map_cons, htree]
  | negated =>
      obtain ⟨hu, htree⟩ := hinner (hreadable u' (List.mem_singleton_self u'))
      refine ⟨fun child hchild => ?_, congrArg Rule.negation htree⟩
      rwa [List.mem_singleton.mp hchild]

theorem read_of_form_replaces {u u' : Json} {decode : String → Option Json}
    (hform : Form.Replaces u u' (form decode source) (form decode source'))
    (hinner : ∀ levels, fits decode levels u' = true →
      fits decode levels u = true ∧ read decode levels u' = read decode levels u)
    {levels : Nat} (hfits : fits decode levels source' = true) :
    fits decode levels source = true ∧ read decode levels source' = read decode levels source := by
  cases levels with
  | zero => exact absurd hfits Bool.false_ne_true
  | succ levels =>
      rw [fits_succ_iff] at hfits ⊢
      rw [read_succ, read_succ]
      exact hform.build_eq (hinner levels) hfits

theorem read_of_replaces (hs : Json.ofText? s = some v)
    (hreplaced : Replaces v (.string s) source source') {levels : Nat}
    (hfits : fits Json.ofText? levels source' = true) :
    fits Json.ofText? levels source = true ∧
      read Json.ofText? levels source' = read Json.ofText? levels source := by
  induction hreplaced generalizing levels with
  | here => exact read_string_of_fits hs hfits
  | item before after _ ih =>
      exact read_of_form_replaces (.group .all before after) (fun _ => ih) hfits
  | keyed kind before after hfield _ ih =>
      exact read_of_form_replaces (form_replaces_keyed hfield) (fun _ => ih) hfits
  | named before after hkind hfield _ ih =>
      exact read_of_form_replaces (form_replaces_named hkind hfield) (fun _ => ih) hfits
  | denied hfield _ ih =>
      exact read_of_form_replaces (form_replaces_denied hfield) (fun _ => ih) hfits
  | namedDenied htype hkind hfield hinner ih =>
      exact read_of_form_replaces (form_replaces_namedDenied hs hinner htype hkind hfield)
        (fun _ => ih) hfits

/-- A rule that is written as text, anywhere inside a source, does not change the tree of the
source, as long as all of the changed source stands within the limit. -/
theorem ofSource_replaces (hs : Json.ofText? s = some v)
    (hreplaced : Replaces v (.string s) source source')
    (hfull : ReadsInFull Json.ofText? 0 source') :
    Rule.ofSource source' = Rule.ofSource source := by
  have hfits := (readsInFull_iff Json.ofText? (Nat.zero_le maxDepth)).mp hfull
  exact (read_of_replaces hs hreplaced hfits).2

theorem ofSource_replaces_list_in_condition :
    let list : Json := .array [.string "amps >= 50", .null]
    let text : Json := .string " [\"amps >= 50\", null]"
    let inAny (item : Json) : Json := .object [("any", .array [.string "solar", item])]
    let denied (child : Json) : Json := .object [("condition", child), ("type", .string "not")]
    Json.ofText? " [\"amps >= 50\", null]" = some list ∧
      Replaces list text (denied (inAny list)) (denied (inAny text)) ∧
      ReadsInFull Json.ofText? 0 (denied (inAny text)) ∧
      Rule.ofSource (denied (inAny text)) = Rule.ofSource (denied (inAny list)) := by
  intro list text inAny denied
  have hs : Json.ofText? " [\"amps >= 50\", null]" = some list := rfl
  have hlist : Fields.get? [("any", Json.array [.string "solar", list])] Combinator.any.name =
      some (.array ([.string "solar"] ++ list :: [])) := rfl
  have hany : Replaces list text (inAny list) (inAny text) :=
    .keyed .any [.string "solar"] [] hlist .here
  have hfield : Fields.First [("condition", inAny list), ("type", .string "not")] negatedFields
      (fun _ => True) "condition" (inAny list) :=
    ⟨["rule"], ["child", "expression", "operand", "value"], rfl, rfl, trivial, by decide⟩
  have hreplaced : Replaces list text (denied (inAny list)) (denied (inAny text)) :=
    .namedDenied rfl rfl hfield hany
  have hfull : ReadsInFull Json.ofText? 0 (denied (inAny text)) :=
    (readsInFull_iff _ (by decide)).mpr (by decide)
  exact ⟨hs, hreplaced, hfull, ofSource_replaces hs hreplaced hfull⟩

end FilingChecklist.Source
