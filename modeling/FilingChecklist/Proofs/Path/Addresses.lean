import Mathlib.Data.List.Basic
import FilingChecklist.Proofs.Decimal.Characters
import FilingChecklist.Proofs.Path.Grammar

namespace FilingChecklist.Path

open Text (isQuote)

/-- The quote around a key: a double one, unless the key has one in it. -/
def quoteAround (name : String) : Char :=
  if '\x22' ∈ name.toList then '\x27' else '\x22'

def Segment.written : Segment → List Char
  | .key name => '[' :: quoteAround name :: name.toList ++ [quoteAround name, ']']
  | .index position => '[' :: Nat.toDigits 10 position ++ [']']

/-- Between brackets stand a key without one of the two quotes, or a position of 64 bits. -/
def Segment.Writable : Segment → Prop
  | .key name => ¬ ('\x22' ∈ name.toList ∧ '\x27' ∈ name.toList)
  | .index position => position < 0x10000000000000000

instance : DecidablePred Segment.Writable
  | .key name => inferInstanceAs (Decidable (¬ ('\x22' ∈ name.toList ∧ '\x27' ∈ name.toList)))
  | .index position => inferInstanceAs (Decidable (position < 0x10000000000000000))

/-- The path of some steps. -/
def address (steps : List Segment) : String :=
  String.ofList (steps.flatMap Segment.written)

/-- The steps lead from one value to another, keys into objects and positions into lists. -/
inductive Leads : Json → List Segment → Json → Prop
  | here (v : Json) : Leads v [] v
  | key {fields : Object} {name : String} {v w : Json} {steps : List Segment}
      (hfield : Fields.get? fields name = some v) (hsteps : Leads v steps w) :
      Leads (.object fields) (.key name :: steps) w
  | index {items : List Json} {position : Nat} {v w : Json} {steps : List Segment}
      (hitem : items[position]? = some v) (hsteps : Leads v steps w) :
      Leads (.array items) (.index position :: steps) w

/-- A step that leads nowhere. A key into a list is none of these: it may write a position. -/
inductive Blocked : Json → Segment → Prop
  | missing {fields : Object} {name : String} (h : Fields.get? fields name = none) :
      Blocked (.object fields) (.key name)
  | scalar {v : Json} {segment : Segment} (hlist : ∀ items, v ≠ .array items)
      (hobject : ∀ fields, v ≠ .object fields) : Blocked v segment
  | beyond {items : List Json} {position : Nat} (h : items.length ≤ position) :
      Blocked (.array items) (.index position)
  | position {fields : Object} {position : Nat} : Blocked (.object fields) (.index position)

/-- The first step that does not lead on is blocked. -/
def Fails (v : Json) (steps : List Segment) : Prop :=
  ∃ before segment after u, steps = before ++ segment :: after ∧ Leads v before u ∧
    Blocked u segment

theorem Leads.follow?_eq {v w : Json} {steps : List Segment} (h : Leads v steps w) :
    follow? v steps = some w := by
  induction h with
  | here v => rfl
  | key hfield _ ih => rw [follow?, List.foldlM_cons, enter?, hfield]; exact ih
  | index hitem _ ih => rw [follow?, List.foldlM_cons, enter?, hitem]; exact ih

theorem Blocked.enter?_eq {v : Json} {segment : Segment} (h : Blocked v segment) :
    enter? v segment = none := by
  cases h with
  | missing h => exact h
  | scalar hlist hobject =>
      cases v with
      | array items => exact absurd rfl (hlist items)
      | object fields => exact absurd rfl (hobject fields)
      | _ => cases segment <;> rfl
  | beyond h => exact List.getElem?_eq_none h
  | position => rfl

theorem Fails.follow?_eq {v : Json} {steps : List Segment} (h : Fails v steps) :
    follow? v steps = none := by
  obtain ⟨before, segment, after, u, rfl, hleads, hblocked⟩ := h
  have hbefore := hleads.follow?_eq
  rw [follow?] at hbefore
  rw [follow?, List.foldlM_append, hbefore, Option.bind_eq_bind, Option.bind_some,
    List.foldlM_cons, hblocked.enter?_eq]
  rfl

theorem isQuote_quoteAround (name : String) : isQuote (quoteAround name) = true := by
  rw [quoteAround]
  split <;> rfl

theorem quoteAround_not_mem {name : String} (h : (Segment.key name).Writable) :
    quoteAround name ∉ name.toList := by
  rw [quoteAround]
  split
  · next hdouble => exact fun hsingle => h ⟨hdouble, hsingle⟩
  · next hdouble => exact hdouble

theorem digits_toDigits {position : Nat} (h : position < 0x10000000000000000) :
    Digits (Nat.toDigits 10 position) position where
  ne_nil := Nat.toDigits_ne_nil
  isDigit c hc := Nat.isDigit_of_mem_toDigits (by decide) (by decide) hc
  ofDigits_eq := Nat.ofDigitChars_ten_toDigits
  lt := h

theorem Segment.Writable.group {segment : Segment} (h : segment.Writable) :
    Group segment.written segment := by
  cases segment with
  | key name =>
      have hgroup : Group ('[' :: [] ++ quoteAround name :: name.toList ++ quoteAround name :: [] ++
          [']']) (.key (String.ofList name.toList)) :=
        .quoted (isQuote_quoteAround name) nofun (quoteAround_not_mem h) nofun
      rw [String.ofList_toList] at hgroup
      simpa [written] using hgroup
  | index position =>
      have hdigit : ∀ c ∈ Nat.toDigits 10 position, c.isDigit = true := (digits_toDigits h).isDigit
      have hblank : ∀ c ∈ Nat.toDigits 10 position, Text.isBlank c = false := fun c hc =>
        Decimal.isBlank_of_isNumeric (Decimal.isNumeric_of_isDigit (hdigit c hc))
      have hstart : Text.trimStart (Nat.toDigits 10 position) = Nat.toDigits 10 position :=
        Text.trimStart_eq_self fun c hc => hblank c (List.mem_of_mem_head? hc)
      refine .bare ?_ ?_ ?_
      · exact fun hclose => absurd (hdigit _ hclose) (by decide)
      · intro c hc
        rw [hstart] at hc
        have hc := hdigit c (List.mem_of_mem_head? hc)
        cases hquote : isQuote c with
        | false => rfl
        | true =>
            simp only [isQuote, Bool.or_eq_true, beq_iff_eq] at hquote
            rcases hquote with rfl | rfl <;> cases hc
      · rw [Text.trim_of_forall_filled hblank]
        exact .unsigned (digits_toDigits h)

theorem written_address {steps : List Segment} (h : ∀ segment ∈ steps, segment.Writable) :
    Written (address steps).toList steps := by
  rw [address, String.toList_ofList]
  induction steps with
  | nil => exact .nil
  | cons segment steps ih =>
      obtain ⟨hsegment, hsteps⟩ := List.forall_mem_cons.mp h
      rw [List.flatMap_cons]
      exact .group hsegment.group (ih hsteps)

theorem Segment.head?_written (segment : Segment) : segment.written.head? = some '[' := by
  cases segment <;> rfl

theorem Segment.getLast?_written (segment : Segment) : segment.written.getLast? = some ']' := by
  cases segment <;> simp [written, List.getLast?_cons]

theorem trimmed_address (steps : List Segment) : Text.trimmed (address steps) = address steps := by
  rw [Text.trimmed, address, String.toList_ofList]
  congr 1
  apply Text.trim_eq_self
  · intro c hc
    cases steps with
    | nil => cases hc
    | cons segment steps =>
        rw [List.flatMap_cons, List.head?_append, segment.head?_written] at hc
        cases hc
        rfl
  · intro c hc
    rcases List.eq_nil_or_concat' steps with rfl | ⟨front, segment, rfl⟩
    · cases hc
    · rw [List.flatMap_append, List.flatMap_singleton, List.getLast?_append,
        segment.getLast?_written] at hc
      cases hc
      rfl

theorem segments?_address {steps : List Segment} (h : ∀ segment ∈ steps, segment.Writable) :
    segments? (address steps) = some steps :=
  scan_of_written (written_address h)

theorem resolve?_address_eq {attributes : Object} {name : String} {rest : List Segment}
    (h : ∀ segment ∈ .key name :: rest, segment.Writable)
    (hname : Fields.get? attributes (address (.key name :: rest)) = none) :
    resolve? attributes (address (.key name :: rest)) =
      follow? (.object attributes) (.key name :: rest) := by
  have hne : (address (.key name :: rest)).isEmpty = false := by
    simp [address, Segment.written]
  simp only [resolve?, trimmed_address, hne, hname, segments?_address h, Bool.false_eq_true,
    if_false]
  rfl

/-- The segments of an address are its steps. Unless an attribute bears the address as its name, the
address finds the value to which the steps lead, and nothing where a step leads nowhere. -/
theorem resolve?_address {attributes : Object} {name : String} {rest : List Segment}
    (hwritable : ∀ segment ∈ .key name :: rest, segment.Writable) :
    let steps : List Segment := .key name :: rest
    segments? (address steps) = some steps ∧
      (Fields.get? attributes (address steps) = none →
        (∀ v, Leads (.object attributes) steps v →
          resolve? attributes (address steps) = some v) ∧
        (Fails (.object attributes) steps → resolve? attributes (address steps) = none)) := by
  intro steps
  refine ⟨segments?_address hwritable, fun hname => ?_⟩
  have hresolve := resolve?_address_eq hwritable hname
  refine ⟨fun v hleads => ?_, fun hfails => ?_⟩
  · rw [hresolve, hleads.follow?_eq]
  · rw [hresolve, hfails.follow?_eq]

theorem resolve?_address_null :
    let attributes : Object :=
      [("lot \x22A\x22", .array [.bool true, .object [(" x.]\x27", .null)]])]
    let steps : List Segment := [.key "lot \x22A\x22", .index 1, .key " x.]\x27"]
    let beyond : List Segment := [.key "lot \x22A\x22", .index 2, .key "x"]
    (∀ segment ∈ steps, segment.Writable) ∧ (∀ segment ∈ beyond, segment.Writable) ∧
      address steps = "[\x27lot \x22A\x22\x27][1][\x22 x.]\x27\x22]" ∧
      segments? (address steps) = some steps ∧
      Fields.get? attributes (address steps) = none ∧
      Leads (.object attributes) steps .null ∧
      resolve? attributes (address steps) = some .null ∧
      Fields.get? attributes (address beyond) = none ∧
      Fails (.object attributes) beyond ∧
      resolve? attributes (address beyond) = none := by
  intro attributes steps beyond
  have hsteps : ∀ segment ∈ steps, segment.Writable := by decide
  have hbeyond : ∀ segment ∈ beyond, segment.Writable := by decide
  have hleads : Leads (.object attributes) steps .null :=
    .key rfl (.index rfl (.key rfl (.here .null)))
  have hfails : Fails (.object attributes) beyond :=
    ⟨[.key "lot \x22A\x22"], .index 2, [.key "x"], _, rfl, .key rfl (.here _),
      .beyond (by decide)⟩
  obtain ⟨hsegments, hresolve⟩ := @resolve?_address attributes _ _ hsteps
  obtain ⟨-, hresolve'⟩ := @resolve?_address attributes _ _ hbeyond
  have hname : Fields.get? attributes (address steps) = none := by decide +kernel
  have hname' : Fields.get? attributes (address beyond) = none := by decide +kernel
  exact ⟨hsteps, hbeyond, by decide +kernel, hsegments, hname, hleads, (hresolve hname).1 _ hleads,
    hname', hfails, (hresolve' hname').2 hfails⟩

end FilingChecklist.Path
