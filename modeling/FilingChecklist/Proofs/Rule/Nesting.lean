import Mathlib.Logic.Relation
import FilingChecklist.Rule.Source

/-!
The nesting at which a source stands decides only how much of it is read. What the limit takes away
are whole subtrees, which become `never`, and it takes nothing from a reading that stays within it.
-/

namespace FilingChecklist

/-- The first tree is the second with any number of subtrees, or the whole of it, replaced by
`never`. -/
inductive Rule.Truncates : Rule → Rule → Prop
  | refl (rule : Rule) : Truncates rule rule
  | never (rule : Rule) : Truncates .never rule
  | negation {cut whole : Rule} (hchild : Truncates cut whole) :
      Truncates (.negation cut) (.negation whole)
  | combinator (kind : Combinator) {cut whole : List Rule}
      (hlength : cut.length = whole.length)
      (hchildren : ∀ (i : Nat) (hcut : i < cut.length) (hwhole : i < whole.length),
        Truncates cut[i] whole[i]) :
      Truncates (.combinator kind cut) (.combinator kind whole)

namespace Source

open Rule (Truncates)

/-- The sources that are read next, each one level deeper. -/
def Form.inner : Form → List Json
  | .settled _ => []
  | .group _ children => children
  | .negated child => [child]
  | .decoded child => [child]

/-- The tree of a form, given the tree of each source inside it. -/
def Form.build (tree : Json → Rule) : Form → Rule
  | .settled rule => rule
  | .group kind children => .combinator kind (children.map tree)
  | .negated child => .negation (tree child)
  | .decoded child => tree child

theorem Form.build_congr {f g : Json → Rule} (outer : Form)
    (h : ∀ child ∈ outer.inner, f child = g child) : outer.build f = outer.build g := by
  cases outer with
  | settled rule => rfl
  | group kind children => exact congrArg (Rule.combinator kind) (List.map_congr_left h)
  | negated child => exact congrArg Rule.negation (h child (List.mem_singleton_self child))
  | decoded child => exact h child (List.mem_singleton_self child)

theorem Form.build_truncates {f g : Json → Rule} (outer : Form)
    (h : ∀ child ∈ outer.inner, Truncates (f child) (g child)) :
    Truncates (outer.build f) (outer.build g) := by
  cases outer with
  | settled rule => exact .refl rule
  | group kind children =>
      refine .combinator kind (by simp) ?_
      intro i hcut hwhole
      simp only [List.getElem_map]
      exact h _ (List.getElem_mem _)
  | negated child => exact .negation (h child (List.mem_singleton_self child))
  | decoded child => exact h child (List.mem_singleton_self child)

section

variable (decode : String → Option Json)

theorem read_zero (source : Json) : read decode 0 source = .never := rfl

theorem read_succ (levels : Nat) (source : Json) :
    read decode (levels + 1) source = (form decode source).build (read decode levels) := by
  rw [read]
  cases form decode source <;> rfl

/-- A source within the limit is read by its form, with the sources inside it one level deeper. -/
theorem readAt_eq_build {depth : Nat} (hdepth : depth ≤ maxDepth) (source : Json) :
    readAt decode depth source = (form decode source).build (readAt decode (depth + 1)) := by
  rw [readAt, show maxDepth + 1 - depth = (maxDepth + 1 - (depth + 1)) + 1 by omega, read_succ]
  rfl

/-- Reading a source at some nesting goes on to read a source inside it. Nothing is read inside a
source that stands beyond `maxDepth`. -/
inductive Calls : Nat × Json → Nat × Json → Prop
  | inner {depth : Nat} {source child : Json} (hdepth : depth ≤ maxDepth)
      (hchild : child ∈ (form decode source).inner) : Calls (depth, source) (depth + 1, child)

/-- Nothing that is read for a source at nesting `depth` stands beyond `maxDepth`. -/
def ReadsInFull (depth : Nat) (source : Json) : Prop :=
  ∀ (deeper : Nat) (child : Json),
    Relation.TransGen (Calls decode) (depth, source) (deeper, child) → deeper ≤ maxDepth

/-- Whether so many levels suffice to read a source to its end. -/
def fits (levels : Nat) (source : Json) : Bool :=
  match levels with
  | 0 => false
  | levels + 1 => (form decode source).inner.all (fits levels)

theorem fits_succ_iff {levels : Nat} {source : Json} :
    fits decode (levels + 1) source = true ↔
      ∀ child ∈ (form decode source).inner, fits decode levels child = true := by
  rw [fits, List.all_eq_true]

theorem fits_of_readsInFull {depth : Nat} {source : Json} (hdepth : depth ≤ maxDepth)
    (hfull : ReadsInFull decode depth source) :
    fits decode (maxDepth + 1 - depth) source = true := by
  generalize hlevels : maxDepth - depth = levels
  induction levels generalizing depth source with
  | zero =>
      rw [show maxDepth + 1 - depth = 0 + 1 by omega, fits_succ_iff]
      intro child hchild
      have hcall := hfull (depth + 1) child (.single (.inner hdepth hchild))
      omega
  | succ levels ih =>
      rw [show maxDepth + 1 - depth = (levels + 1) + 1 by omega, fits_succ_iff]
      intro child hchild
      have hnext : depth + 1 ≤ maxDepth := by omega
      have hcall : Calls decode (depth, source) (depth + 1, child) := .inner hdepth hchild
      have hfits := ih hnext (fun deeper inner hpath => hfull deeper inner (.head hcall hpath))
        (by omega)
      rwa [show maxDepth + 1 - (depth + 1) = levels + 1 by omega] at hfits

theorem le_maxDepth_of_fits {depth : Nat} {source : Json}
    (hfits : fits decode (maxDepth + 1 - depth) source = true) : depth ≤ maxDepth := by
  rcases Nat.lt_or_ge maxDepth depth with hdepth | hdepth
  · rw [show maxDepth + 1 - depth = 0 by omega] at hfits
    exact absurd hfits Bool.false_ne_true
  · exact hdepth

theorem Calls.fits {start next : Nat × Json} (hcall : Calls decode start next)
    (hfits : fits decode (maxDepth + 1 - start.1) start.2 = true) :
    fits decode (maxDepth + 1 - next.1) next.2 = true := by
  obtain @⟨depth, source, child, hdepth, hchild⟩ := hcall
  rw [show maxDepth + 1 - depth = (maxDepth + 1 - (depth + 1)) + 1 by omega,
    fits_succ_iff] at hfits
  exact hfits child hchild

theorem fits_of_transGen {start last : Nat × Json}
    (hpath : Relation.TransGen (Calls decode) start last)
    (hfits : fits decode (maxDepth + 1 - start.1) start.2 = true) :
    fits decode (maxDepth + 1 - last.1) last.2 = true := by
  induction hpath with
  | single hcall => exact hcall.fits decode hfits
  | tail _ hcall ih => exact hcall.fits decode ih

/-- A source within the limit is read in full exactly if the levels that remain suffice. -/
theorem readsInFull_iff {depth : Nat} {source : Json} (hdepth : depth ≤ maxDepth) :
    ReadsInFull decode depth source ↔ fits decode (maxDepth + 1 - depth) source = true := by
  constructor
  · exact fits_of_readsInFull decode hdepth
  · intro hfits deeper child hpath
    exact le_maxDepth_of_fits decode (fits_of_transGen decode hpath hfits)

theorem fits_of_le {levels more : Nat} (hle : levels ≤ more) {source : Json}
    (hfits : fits decode levels source = true) : fits decode more source = true := by
  induction levels generalizing more source with
  | zero => exact absurd hfits Bool.false_ne_true
  | succ levels ih =>
      obtain ⟨more, rfl⟩ : ∃ rest, more = rest + 1 := ⟨more - 1, by omega⟩
      rw [fits_succ_iff] at hfits ⊢
      intro child hchild
      exact ih (by omega) (hfits child hchild)

theorem read_eq_of_fits {levels more : Nat} (hle : levels ≤ more) {source : Json}
    (hfits : fits decode levels source = true) :
    read decode levels source = read decode more source := by
  induction levels generalizing more source with
  | zero => exact absurd hfits Bool.false_ne_true
  | succ levels ih =>
      obtain ⟨more, rfl⟩ : ∃ rest, more = rest + 1 := ⟨more - 1, by omega⟩
      rw [read_succ, read_succ]
      rw [fits_succ_iff] at hfits
      apply Form.build_congr
      intro child hchild
      exact ih (by omega) (hfits child hchild)

theorem read_truncates {levels more : Nat} (hle : levels ≤ more) (source : Json) :
    Truncates (read decode levels source) (read decode more source) := by
  induction levels generalizing more source with
  | zero =>
      rw [read_zero]
      exact .never _
  | succ levels ih =>
      obtain ⟨more, rfl⟩ : ∃ rest, more = rest + 1 := ⟨more - 1, by omega⟩
      rw [read_succ, read_succ]
      apply Form.build_truncates
      intro child _
      exact ih (by omega) child

end

theorem ofSource_of_settled {source : Json} {tree : Rule}
    (h : form Json.ofText? source = .settled tree) : Rule.ofSource source = tree := by
  rw [Rule.ofSource, readAt_eq_build Json.ofText? (Nat.zero_le maxDepth), h]
  rfl

end Source

end FilingChecklist
