import Mathlib.Algebra.Ring.Parity
import Mathlib.Data.List.Forall2
import FilingChecklist.Proofs.Rule.Nesting
import FilingChecklist.Rule.Evaluation

/-!
Rules of which some parts were not understood, so that `never` stands in their place. Under an even
number of negations such a loss can only make a rule fail, and under an odd number only hold.
-/

namespace FilingChecklist

namespace Rule

def children : Rule → List Rule
  | .combinator _ children => children
  | .negation child => [child]
  | _ => []

/-- Whether the node holds the less the more of its children hold. -/
def inverts : Rule → Bool
  | .combinator kind _ => kind == .noneOf
  | .negation _ => true
  | _ => false

mutual

theorem induction_on_children {motive : Rule → Prop}
    (step : ∀ rule, (∀ child ∈ rule.children, motive child) → motive rule) :
    (rule : Rule) → motive rule
  | .literal b => step (.literal b) nofun
  | .always => step .always nofun
  | .never => step .never nofun
  | .comparison test => step (.comparison test) nofun
  | .combinator kind children => step (.combinator kind children) (forall_mem_of_step step children)
  | .negation child => step (.negation child) fun _ h =>
      List.mem_singleton.mp h ▸ induction_on_children step child

theorem forall_mem_of_step {motive : Rule → Prop}
    (step : ∀ rule, (∀ child ∈ rule.children, motive child) → motive rule) :
    (rules : List Rule) → ∀ rule ∈ rules, motive rule
  | [] => nofun
  | rule :: rules => List.forall_mem_cons.mpr
      ⟨induction_on_children step rule, forall_mem_of_step step rules⟩

end

/-- The way from the root of a tree to a subtree: which child to take at each node. -/
abbrev Address := List Nat

def subtree? (rule : Rule) : Address → Option Rule
  | [] => some rule
  | i :: rest => rule.children[i]?.bind fun child => child.subtree? rest

/-- How many negations and combinations of kind `noneOf` stand above an address. -/
def inversions (rule : Rule) : Address → Nat
  | [] => 0
  | i :: rest =>
      (if rule.inverts then 1 else 0) +
        (rule.children[i]?.elim 0 fun child => child.inversions rest)

theorem subtree?_cons_of_getElem? {rule child : Rule} {i : Nat}
    (hchild : rule.children[i]? = some child) (rest : Address) :
    rule.subtree? (i :: rest) = child.subtree? rest := by
  rw [subtree?, hchild, Option.bind_some]

theorem inversions_cons_of_getElem? {rule child : Rule} {i : Nat}
    (hchild : rule.children[i]? = some child) (rest : Address) :
    rule.inversions (i :: rest) = (if rule.inverts then 1 else 0) + child.inversions rest := by
  rw [inversions, hchild, Option.elim_some]

/-- There is neither a negation nor a combination of kind `noneOf` in the tree. -/
inductive Positive : Rule → Prop
  | node {rule : Rule} (hroot : rule.inverts = false)
      (hchildren : ∀ child ∈ rule.children, Positive child) : Positive rule

/-- The marks inside child number `i`. -/
def marksIn (i : Nat) (marked : Address → Bool) : Address → Bool :=
  fun rest => marked (i :: rest)

mutual

/-- The tree with `never` in place of every subtree whose address is marked. -/
def prune (marked : Address → Bool) : Rule → Rule
  | .combinator kind children =>
      if marked [] then .never else .combinator kind (pruneEach marked 0 children)
  | .negation child =>
      if marked [] then .never else .negation (prune (marksIn 0 marked) child)
  | rule => if marked [] then .never else rule

def pruneEach (marked : Address → Bool) (i : Nat) : List Rule → List Rule
  | [] => []
  | child :: children =>
      prune (marksIn i marked) child :: pruneEach marked (i + 1) children

end

theorem pruneEach_eq_mapIdx (marked : Address → Bool) (i : Nat) (children : List Rule) :
    pruneEach marked i children =
      children.mapIdx fun j child => child.prune (marksIn (i + j) marked) := by
  induction children generalizing i with
  | nil => rfl
  | cons child children ih =>
      rw [pruneEach, ih, List.mapIdx_cons]
      simp only [Nat.add_zero, Nat.add_assoc, Nat.add_comm 1]

theorem prune_of_marked {marked : Address → Bool} (h : marked [] = true) (rule : Rule) :
    rule.prune marked = .never := by
  cases rule <;> simp only [prune, h, if_true]

theorem prune_combinator {marked : Address → Bool} (h : marked [] = false) (kind : Combinator)
    (children : List Rule) :
    (combinator kind children).prune marked =
      .combinator kind (children.mapIdx fun i child => child.prune (marksIn i marked)) := by
  rw [prune, h, pruneEach_eq_mapIdx]
  simp only [Bool.false_eq_true, if_false, Nat.zero_add]

theorem prune_negation {marked : Address → Bool} (h : marked [] = false) (child : Rule) :
    (negation child).prune marked = .negation (child.prune (marksIn 0 marked)) := by
  rw [prune, h]
  rfl

theorem prune_leaf {marked : Address → Bool} (h : marked [] = false) {rule : Rule}
    (hleaf : rule.children = []) : rule.prune marked = rule := by
  cases rule with
  | combinator kind children =>
      rw [prune_combinator h, show children = [] from hleaf]
      rfl
  | negation child => cases hleaf
  | _ => simp [prune, h]

theorem prune_unmarked (rule : Rule) : rule.prune (fun _ => false) = rule := by
  induction rule using induction_on_children with
  | step rule ih =>
      cases rule with
      | combinator kind children =>
          rw [prune_combinator rfl]
          refine congrArg (combinator kind) (List.ext_getElem (by simp) ?_)
          intro i hi hi'
          rw [List.getElem_mapIdx]
          exact ih _ (List.getElem_mem hi')
      | negation child =>
          rw [prune_negation rfl]
          exact congrArg negation (ih child (List.mem_singleton_self child))
      | _ => exact prune_leaf rfl rfl

theorem truncates_prune (rule : Rule) :
    ∀ marked : Address → Bool, Truncates (rule.prune marked) rule := by
  induction rule using induction_on_children with
  | step rule ih =>
      intro marked
      cases hroot : marked [] with
      | true =>
          rw [prune_of_marked hroot]
          exact .never rule
      | false =>
          cases rule with
          | combinator kind children =>
              rw [prune_combinator hroot]
              refine .combinator kind (by simp) ?_
              intro i hcut hwhole
              rw [List.getElem_mapIdx]
              exact ih _ (List.getElem_mem hwhole) _
          | negation child =>
              rw [prune_negation hroot]
              exact .negation (ih child (List.mem_singleton_self child) _)
          | _ =>
              rw [prune_leaf hroot rfl]
              exact .refl _

/-- Truncating a tree is pruning it at some set of addresses. -/
theorem truncates_iff {cut whole : Rule} :
    Truncates cut whole ↔ ∃ marked : Address → Bool, cut = whole.prune marked := by
  constructor
  · intro h
    induction h with
    | refl rule => exact ⟨fun _ => false, (prune_unmarked rule).symm⟩
    | never rule => exact ⟨fun _ => true, (prune_of_marked rfl rule).symm⟩
    | @negation cut whole _ ih =>
        obtain ⟨marked, rfl⟩ := ih
        refine ⟨fun address => !address.isEmpty && marked address.tail, ?_⟩
        rw [prune_negation rfl]
        rfl
    | @combinator kind cut whole hlength _ ih =>
        -- child number `i` is pruned at its own set of addresses
        choose marked hmarked using ih
        refine ⟨fun
          | [] => false
          | i :: rest => if h : i < cut.length then marked i h (hlength ▸ h) rest else false, ?_⟩
        rw [prune_combinator rfl]
        refine congrArg (Rule.combinator kind) (List.ext_getElem (by simpa using hlength) ?_)
        intro i hcut hmapped
        rw [List.getElem_mapIdx, hmarked i hcut (hlength ▸ hcut)]
        congr 1
        funext rest
        simp [marksIn, hcut]
  · rintro ⟨marked, rfl⟩
    exact truncates_prune whole marked

/-- `x` implies `y`, or `y` implies `x` if `reversed`. -/
def Implies (reversed : Bool) (x y : Bool) : Prop :=
  if reversed then y = true → x = true else x = true → y = true

theorem Implies.not {reversed x y : Bool} (h : Implies (!reversed) x y) :
    Implies reversed (!x) (!y) := by
  cases reversed <;>
    simp only [Implies, Bool.not_eq_true', ← Bool.not_eq_true] at h ⊢ <;> exact mt h

theorem Implies.or {reversed x y x' y' : Bool} (h : Implies reversed x y)
    (h' : Implies reversed x' y') : Implies reversed (x || x') (y || y') := by
  cases reversed <;> simp only [Implies, Bool.or_eq_true] at h h' ⊢ <;> exact Or.imp h h'

theorem Implies.and {reversed x y x' y' : Bool} (h : Implies reversed x y)
    (h' : Implies reversed x' y') : Implies reversed (x && x') (y && y') := by
  cases reversed <;> simp only [Implies, Bool.and_eq_true] at h h' ⊢ <;> exact And.imp h h'

section

variable {reversed : Bool} {xs ys : List Bool}

theorem implies_any (h : List.Forall₂ (Implies reversed) xs ys) :
    Implies reversed (xs.any id) (ys.any id) := by
  induction h with
  | nil => cases reversed <;> exact id
  | cons hxy _ ih => exact hxy.or ih

theorem implies_all (h : List.Forall₂ (Implies reversed) xs ys) :
    Implies reversed (xs.all id) (ys.all id) := by
  induction h with
  | nil => cases reversed <;> exact id
  | cons hxy _ ih => exact hxy.and ih

theorem implies_isEmpty (h : List.Forall₂ (Implies reversed) xs ys) :
    Implies reversed xs.isEmpty ys.isEmpty := by
  cases h with
  | nil => cases reversed <;> exact id
  | cons _ _ => cases reversed <;> exact id

theorem implies_holds {kind : Combinator}
    (h : List.Forall₂ (Implies (reversed ^^ kind == .noneOf)) xs ys) :
    Implies reversed (kind.holds xs) (kind.holds ys) := by
  cases kind with
  | all =>
      rw [show (reversed ^^ Combinator.all == .noneOf) = reversed from Bool.xor_false _] at h
      exact implies_all h
  | any =>
      rw [show (reversed ^^ Combinator.any == .noneOf) = reversed from Bool.xor_false _] at h
      exact (implies_isEmpty h).or (implies_any h)
  | noneOf =>
      rw [show (reversed ^^ Combinator.noneOf == .noneOf) = !reversed from Bool.xor_true _] at h
      exact (implies_any h).not

end

theorem evaluate_prune_implies (attributes : Object) (rule : Rule) :
    ∀ (reversed : Bool) (marked : Address → Bool),
      (∀ address, marked address = true → (rule.subtree? address).isSome →
        (Odd (rule.inversions address) ↔ reversed = true)) →
      Implies reversed ((rule.prune marked).evaluate attributes) (rule.evaluate attributes) := by
  induction rule using induction_on_children with
  | step rule ih =>
      intro reversed marked h
      cases hroot : marked [] with
      | true =>
          have hreversed : reversed = false := by simpa [inversions, subtree?] using h [] hroot
          rw [prune_of_marked hroot, hreversed]
          intro hnever
          cases hnever
      | false =>
          -- below a node that inverts, both the parity and the direction are the other one
          have hchild (i : Nat) (child : Rule) (hchild : rule.children[i]? = some child) :
              Implies (reversed ^^ rule.inverts)
                ((child.prune (marksIn i marked)).evaluate attributes)
                (child.evaluate attributes) := by
            apply ih child (List.mem_of_getElem? hchild)
            intro rest hmarked hrest
            have hodd := h (i :: rest) hmarked (by rwa [subtree?_cons_of_getElem? hchild])
            rw [inversions_cons_of_getElem? hchild] at hodd
            cases hinverts : rule.inverts with
            | false => simpa [hinverts] using hodd
            | true =>
                rw [hinverts, if_pos rfl, add_comm, Nat.odd_add_one] at hodd
                rw [Bool.xor_true, Bool.not_eq_true', ← Bool.not_eq_true, ← hodd, not_not]
          cases rule with
          | combinator kind children =>
              rw [prune_combinator hroot, evaluate, evaluate, evaluateEach_eq_map,
                evaluateEach_eq_map]
              apply implies_holds
              refine List.forall₂_iff_get.mpr ⟨by simp, ?_⟩
              intro i hi hi'
              simp only [List.get_eq_getElem, List.getElem_map, List.getElem_mapIdx]
              exact hchild i _ (List.getElem?_eq_getElem (List.length_map _ ▸ hi'))
          | negation child =>
              rw [prune_negation hroot, evaluate, evaluate]
              have hinner := hchild 0 child rfl
              rw [inverts, Bool.xor_true] at hinner
              exact hinner.not
          | _ =>
              rw [prune_leaf hroot rfl]
              cases reversed <;> exact id

theorem Positive.inversions_eq_zero {rule : Rule} (h : rule.Positive) (address : Address) :
    rule.inversions address = 0 := by
  induction address generalizing rule with
  | nil => rfl
  | cons i rest ih =>
      obtain ⟨hroot, hchildren⟩ := h
      rw [inversions, hroot]
      cases hchild : rule.children[i]? with
      | none => rfl
      | some child =>
          exact (Nat.zero_add _).trans (ih (hchildren child (List.mem_of_getElem? hchild)))

theorem evaluate_of_prune {rule : Rule} {attributes : Object} {marked : Address → Bool}
    (heven : ∀ address, marked address = true → (rule.subtree? address).isSome →
      Even (rule.inversions address))
    (h : (rule.prune marked).evaluate attributes = true) : rule.evaluate attributes = true := by
  refine evaluate_prune_implies attributes rule false marked ?_ h
  intro address hmarked hsubtree
  simpa using heven address hmarked hsubtree

theorem evaluate_prune_of_evaluate {rule : Rule} {attributes : Object} {marked : Address → Bool}
    (hodd : ∀ address, marked address = true → (rule.subtree? address).isSome →
      Odd (rule.inversions address))
    (h : rule.evaluate attributes = true) : (rule.prune marked).evaluate attributes = true := by
  refine evaluate_prune_implies attributes rule true marked ?_ h
  intro address hmarked hsubtree
  simpa using hodd address hmarked hsubtree

theorem Positive.evaluate_of_truncates {cut rule : Rule} {attributes : Object}
    (hpositive : rule.Positive) (htruncates : Truncates cut rule)
    (h : cut.evaluate attributes = true) : rule.evaluate attributes = true := by
  obtain ⟨marked, rfl⟩ := truncates_iff.mp htruncates
  refine evaluate_of_prune ?_ h
  intro address _ _
  rw [hpositive.inversions_eq_zero]
  exact Even.zero

/-- A rule that loses subtrees under even numbers of negations can only lose truth, and one that
loses subtrees under odd numbers of negations can only gain it. A rule without negations can only
lose it, whatever is not understood of it. -/
theorem evaluate_prune (rule : Rule) (attributes : Object) :
    (∀ marked : Address → Bool,
      (∀ address, marked address = true → (rule.subtree? address).isSome →
        Even (rule.inversions address)) →
      (rule.prune marked).evaluate attributes = true → rule.evaluate attributes = true) ∧
    (∀ marked : Address → Bool,
      (∀ address, marked address = true → (rule.subtree? address).isSome →
        Odd (rule.inversions address)) →
      rule.evaluate attributes = true → (rule.prune marked).evaluate attributes = true) ∧
    (rule.Positive → ∀ cut, Truncates cut rule →
      cut.evaluate attributes = true → rule.evaluate attributes = true) :=
  ⟨fun _ heven h => evaluate_of_prune heven h, fun _ hodd h => evaluate_prune_of_evaluate hodd h,
    fun hpositive _ htruncates h => hpositive.evaluate_of_truncates htruncates h⟩

theorem evaluate_prune_in_any :
    let solar : Rule := .compare "solar" .truthy []
    let rule : Rule := .combinator .any
      [.negation (.combinator .noneOf [solar, .literal false]), .combinator .noneOf [.always]]
    let plain : Rule := .combinator .any [solar, .combinator .all [.always]]
    let cut : Rule := .combinator .any [solar, .never]
    let attributes : Object := [("solar", .bool true)]
    (rule.prune (· == [0, 0, 1])).evaluate attributes = true ∧
      rule.evaluate attributes = true ∧
      (rule.prune (· == [1, 0])).evaluate attributes = true ∧
      plain.Positive ∧ Truncates cut plain ∧ plain.evaluate attributes = true := by
  intro solar rule plain cut attributes
  have htwice : (rule.prune (· == [0, 0, 1])).evaluate attributes = true := by decide
  have hrule : rule.evaluate attributes = true := by
    refine (evaluate_prune rule attributes).1 (· == [0, 0, 1]) ?_ htwice
    intro address hmarked _
    rw [beq_iff_eq.mp hmarked]
    exact ⟨1, rfl⟩
  have honce : (rule.prune (· == [1, 0])).evaluate attributes = true := by
    refine (evaluate_prune rule attributes).2.1 (· == [1, 0]) ?_ hrule
    intro address hmarked _
    rw [beq_iff_eq.mp hmarked]
    exact ⟨0, rfl⟩
  have hplain : plain.Positive :=
    .node rfl (List.forall_mem_cons.mpr ⟨.node rfl nofun, List.forall_mem_singleton.mpr
      (.node rfl (List.forall_mem_singleton.mpr (.node rfl nofun)))⟩)
  have htruncates : Truncates cut plain := truncates_iff.mpr ⟨(· == [1]), rfl⟩
  have hcut : cut.evaluate attributes = true := by decide
  exact ⟨htwice, hrule, honce, hplain, htruncates,
    (evaluate_prune plain attributes).2.2 hplain cut htruncates hcut⟩

end Rule

/-- A rule without negations that is nested deeper holds at most where it did. -/
theorem Source.evaluate_readAt_of_deeper {decode : String → Option Json} {depth deeper : Nat}
    (hle : depth ≤ deeper) {source : Json} {attributes : Object}
    (hpositive : (readAt decode depth source).Positive)
    (h : (readAt decode deeper source).evaluate attributes = true) :
    (readAt decode depth source).evaluate attributes = true := by
  refine hpositive.evaluate_of_truncates ?_ h
  exact read_truncates decode (by omega) source

end FilingChecklist
