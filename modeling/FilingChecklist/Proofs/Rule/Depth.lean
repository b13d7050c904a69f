import FilingChecklist.Proofs.Rule.Dispatch
import FilingChecklist.Proofs.Rule.Nesting

/-!
How deep a source is read. What is decoded from a text may be larger than the text, or contain it
again, so neither grows smaller from one step of the reading to the next; only the nesting puts an
end to it.
-/

namespace FilingChecklist

namespace Rule

theorem depthOfDeepest_le_iff {children : List Rule} {n : Nat} :
    depthOfDeepest children ≤ n ↔ ∀ child ∈ children, child.depth ≤ n := by
  induction children with
  | nil => simp [depthOfDeepest]
  | cons child children ih => rw [depthOfDeepest, Nat.max_le, ih, List.forall_mem_cons]

end Rule

namespace Source

variable {decode : String → Option Json} {depth : Nat} {source : Json}

/-- The reading of a source that stands at nesting `depth` comes to an end, with this tree. -/
inductive ReadsTo (decode : String → Option Json) : Nat → Json → Rule → Prop
  | tooDeep {depth : Nat} {source : Json} (hdepth : maxDepth < depth) :
      ReadsTo decode depth source .never
  | settled {depth : Nat} {source : Json} {rule : Rule} (hdepth : depth ≤ maxDepth)
      (hform : form decode source = .settled rule) : ReadsTo decode depth source rule
  | group {depth : Nat} {source : Json} {kind : Combinator} {children : List Json}
      {rules : List Rule} (hdepth : depth ≤ maxDepth)
      (hform : form decode source = .group kind children) (hlength : rules.length = children.length)
      (hrules : ∀ (i : Nat) (hchild : i < children.length) (hrule : i < rules.length),
        ReadsTo decode (depth + 1) children[i] rules[i]) :
      ReadsTo decode depth source (.combinator kind rules)
  | negated {depth : Nat} {source child : Json} {rule : Rule} (hdepth : depth ≤ maxDepth)
      (hform : form decode source = .negated child)
      (hrule : ReadsTo decode (depth + 1) child rule) :
      ReadsTo decode depth source (.negation rule)
  | decoded {depth : Nat} {source inner : Json} {rule : Rule} (hdepth : depth ≤ maxDepth)
      (hform : form decode source = .decoded inner)
      (hrule : ReadsTo decode (depth + 1) inner rule) :
      ReadsTo decode depth source rule

theorem readAt_of_lt (hdepth : maxDepth < depth) : readAt decode depth source = .never := by
  rw [readAt, show maxDepth + 1 - depth = 0 by omega, read_zero]

/-- There is a reading of every source: the nesting that is left is what the induction is on. -/
theorem readsTo_readAt (decode : String → Option Json) (depth : Nat) (source : Json) :
    ReadsTo decode depth source (readAt decode depth source) := by
  generalize hleft : maxDepth + 1 - depth = left
  induction left generalizing depth source with
  | zero =>
      rw [readAt_of_lt (by omega)]
      exact .tooDeep (by omega)
  | succ left ih =>
      have hdepth : depth ≤ maxDepth := by omega
      have hinner (child : Json) :
          ReadsTo decode (depth + 1) child (readAt decode (depth + 1) child) :=
        ih (depth + 1) child (by omega)
      rw [readAt_eq_build decode hdepth]
      cases hform : form decode source with
      | settled rule => exact .settled hdepth hform
      | group kind children =>
          refine .group hdepth hform (by simp) ?_
          intro i hchild hrule
          rw [List.getElem_map]
          exact hinner children[i]
      | negated child => exact .negated hdepth hform (hinner child)
      | decoded inner => exact .decoded hdepth hform (hinner inner)

theorem ReadsTo.eq_readAt {rule : Rule} (h : ReadsTo decode depth source rule) :
    rule = readAt decode depth source := by
  induction h with
  | tooDeep hdepth => rw [readAt_of_lt hdepth]
  | settled hdepth hform =>
      rw [readAt_eq_build decode hdepth, hform]
      rfl
  | @group depth source kind children rules hdepth hform hlength _ ih =>
      rw [readAt_eq_build decode hdepth, hform]
      refine congrArg (Rule.combinator kind) (List.ext_getElem (by simpa using hlength) ?_)
      intro i hrule hmapped
      rw [List.getElem_map]
      exact ih i (hlength ▸ hrule) hrule
  | negated hdepth hform _ ih =>
      rw [readAt_eq_build decode hdepth, hform]
      exact congrArg Rule.negation ih
  | decoded hdepth hform _ ih =>
      rw [readAt_eq_build decode hdepth, hform]
      exact ih

theorem readsTo_iff {rule : Rule} :
    ReadsTo decode depth source rule ↔ rule = readAt decode depth source :=
  ⟨ReadsTo.eq_readAt, fun h => h ▸ readsTo_readAt decode depth source⟩

theorem Calls.nesting {start next : Nat × Json} (h : Calls decode start next) :
    start.1 ≤ maxDepth ∧ next.1 = start.1 + 1 := by
  obtain ⟨hdepth, -⟩ := h
  exact ⟨hdepth, rfl⟩

/-- Each call is nested one deeper, so there are no more calls inside each other than levels. -/
theorem length_le_of_isChain {start : Nat × Json} {calls : List (Nat × Json)}
    (h : List.IsChain (Calls decode) (start :: calls)) : calls.length ≤ maxDepth + 1 - start.1 := by
  induction calls generalizing start with
  | nil => exact Nat.zero_le _
  | cons next calls ih =>
      obtain ⟨hcall, hrest⟩ := List.isChain_cons_cons.mp h
      obtain ⟨hdepth, hnext⟩ := hcall.nesting
      have hlength := ih hrest
      rw [List.length_cons]
      omega

theorem depth_constantCondition (rule : Object) (operatorName : String) :
    (constantCondition rule operatorName).depth = 1 := by
  rw [constantCondition]
  split
  · rfl
  · split
    · rfl
    · split <;> rfl

theorem depth_condition (rule : Object) : (condition decode rule).depth = 1 := by
  simp only [condition]
  split
  · exact depth_constantCondition rule _
  · split <;> rfl

theorem FirstOf.exists_mem {steps : List Step} {rule : Object} {outer : Form}
    (h : FirstOf steps rule outer) : ∃ step ∈ steps, step rule outer := by
  induction h with
  | here h => exact ⟨_, List.mem_cons_self, h⟩
  | later _ _ ih =>
      obtain ⟨step, hstep, h⟩ := ih
      exact ⟨step, List.mem_cons_of_mem _ hstep, h⟩

theorem depth_of_textForm {s : String} {tree : Rule} (h : textForm decode s = .settled tree) :
    tree.depth = 1 := by
  simp only [textForm] at h
  split at h
  · cases h
    rfl
  · split at h
    · cases h
      rfl
    · split at h
      · cases h
      · split at h <;> cases h <;> rfl

theorem depth_of_objectForm {rule : Object} {tree : Rule}
    (h : objectForm decode rule = .settled tree) : tree.depth = 1 := by
  obtain ⟨step, hstep, hform⟩ := ((objectForm_eq_iff _).mp h).exists_mem
  simp only [steps, List.mem_cons, List.not_mem_nil, or_false] at hstep
  rcases hstep with rfl | rfl | rfl | rfl | rfl | rfl
  · cases hform <;> rfl
  · cases hform
  · cases hform
  · cases hform
  · cases hform
  · cases hform
    exact depth_condition rule

theorem depth_of_settled {tree : Rule} (h : form decode source = .settled tree) :
    tree.depth = 1 := by
  cases source with
  | string s => exact depth_of_textForm h
  | object rule => exact depth_of_objectForm h
  | array items => cases h
  | _ => cases h; rfl

theorem Form.depth_build_le {outer : Form} {tree : Json → Rule} {n : Nat}
    (hsettled : ∀ rule, outer = .settled rule → rule.depth = 1)
    (hinner : ∀ child ∈ outer.inner, (tree child).depth ≤ n) :
    (outer.build tree).depth ≤ n + 1 := by
  cases outer with
  | settled rule =>
      rw [build, hsettled rule rfl]
      omega
  | group kind children =>
      rw [build, Rule.depth, Nat.add_comm, Nat.add_le_add_iff_right, Rule.depthOfDeepest_le_iff]
      exact List.forall_mem_map.mpr hinner
  | negated child =>
      have hchild := hinner child (List.mem_singleton_self child)
      rw [build, Rule.depth]
      omega
  | decoded child => exact Nat.le_succ_of_le (hinner child (List.mem_singleton_self child))

theorem depth_read_le (decode : String → Option Json) (levels : Nat) (source : Json) :
    (read decode levels source).depth ≤ levels + 1 := by
  induction levels generalizing source with
  | zero => exact Nat.le_refl 1
  | succ levels ih =>
      rw [read_succ]
      exact Form.depth_build_le (fun _ => depth_of_settled) fun child _ => ih child

def nested : Nat → Json
  | 0 => .null
  | levels + 1 => .array [nested levels]

theorem depth_read_nested (decode : String → Option Json) (levels : Nat) :
    (read decode levels (nested levels)).depth = levels + 1 := by
  induction levels with
  | zero => rfl
  | succ levels ih =>
      have hform : form decode (nested (levels + 1)) = .group .all [nested levels] := rfl
      rw [read_succ, hform, Form.build, List.map_singleton, Rule.depth, Rule.depthOfDeepest,
        Rule.depthOfDeepest, ih]
      omega

/-- Whatever texts are decoded to, the reading of a source ends with one tree, within as many calls
as there are levels left. The tree is no deeper than two levels more than that, and it can be as
deep. -/
theorem readAt_within_limit (decode : String → Option Json) (depth : Nat) (source : Json) :
    (∀ rule, ReadsTo decode depth source rule ↔ rule = readAt decode depth source) ∧
      (∀ calls, List.IsChain (Calls decode) ((depth, source) :: calls) →
        calls.length ≤ maxDepth + 1 - depth) ∧
      (maxDepth < depth → readAt decode depth source = .never) ∧
      (depth ≤ maxDepth + 1 →
        (readAt decode depth source).depth ≤ maxDepth + 2 - depth ∧
          ∃ deepest, (readAt decode depth deepest).depth = maxDepth + 2 - depth) ∧
      (Rule.ofSource source).depth ≤ maxDepth + 2 ∧
      ∃ deepest, (Rule.ofSource deepest).depth = maxDepth + 2 := by
  refine ⟨fun rule => readsTo_iff, fun calls => length_le_of_isChain, readAt_of_lt, ?_, ?_, ?_⟩
  · intro hdepth
    have hlevels : maxDepth + 2 - depth = (maxDepth + 1 - depth) + 1 := by omega
    rw [hlevels]
    exact ⟨depth_read_le decode _ source, nested _, depth_read_nested decode _⟩
  · exact depth_read_le Json.ofText? (maxDepth + 1) source
  · exact ⟨nested (maxDepth + 1), depth_read_nested Json.ofText? (maxDepth + 1)⟩

/-- A text that stands for a list of which it is itself an item, and another one that stands for
itself. -/
theorem readAt_within_limit_self_reference :
    let decode : String → Option Json := fun s =>
      if s = "list" then some (.array [.string "list", .bool true])
      else if s = "same" then some (.string "same")
      else none
    readAt decode 61 (.string "list") =
        .combinator .all [.combinator .all [.never, .never], .literal true] ∧
      ReadsTo decode 61 (.string "list") (readAt decode 61 (.string "list")) ∧
      (readAt decode 61 (.string "list")).depth ≤ maxDepth + 2 - 61 ∧
      readAt decode 0 (.string "same") = .never ∧
      readAt decode 65 (.string "list") = .never := by
  intro decode
  obtain ⟨hreads, -, -, hlimit, -, -⟩ := readAt_within_limit decode 61 (.string "list")
  obtain ⟨-, -, hnever, -, -, -⟩ := readAt_within_limit decode 65 (.string "list")
  have hform : form decode (.string "same") = .decoded (.string "same") := rfl
  have hsame (levels : Nat) : read decode levels (.string "same") = .never := by
    induction levels with
    | zero => rfl
    | succ levels ih => rwa [read_succ, hform]
  exact ⟨rfl, (hreads _).mpr rfl, (hlimit (by decide)).1, hsame _, hnever (by decide)⟩

end Source

end FilingChecklist
