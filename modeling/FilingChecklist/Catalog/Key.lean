import FilingChecklist.Text.Blank

namespace FilingChecklist

inductive KeyKind
  | jurisdiction
  | permitType
  | documentType
  | project
  deriving DecidableEq

namespace KeyKind

def description : KeyKind → String
  | jurisdiction => "jurisdiction key"
  | permitType => "permit type key"
  | documentType => "document type key"
  | project => "project id"

/-- The columns that may hold a key of this kind in a catalog row, the one that is written first. -/
def columns : KeyKind → List String
  | jurisdiction => ["municipality_key", "jurisdiction_key", "jurisdiction"]
  | permitType => ["permit_type_key", "permit_type"]
  | documentType => ["doc_type_key", "document_type_key", "document_type"]
  | project => ["project_id"]

def column : KeyKind → String
  | jurisdiction => "municipality_key"
  | permitType => "permit_type_key"
  | documentType => "doc_type_key"
  | project => "project_id"

end KeyKind

structure Key (kind : KeyKind) where
  text : String
  isTrimmed : Text.trimmed text = text
  isNonempty : text ≠ ""
  deriving DecidableEq

namespace Key

variable {kind : KeyKind}

def ofText? (s : String) : Option (Key kind) :=
  let text := Text.trimmed s
  if isNonempty : text ≠ "" then
    some { text, isTrimmed := Text.trimmed_trimmed s, isNonempty }
  else none

theorem ofText?_eq_some_iff {s : String} {key : Key kind} :
    ofText? s = some key ↔ key.text = Text.trimmed s := by
  obtain ⟨text, isTrimmed, isNonempty⟩ := key
  by_cases blank : Text.trimmed s = ""
  · simp only [ofText?, blank, ne_eq, not_true_eq_false, dite_false, reduceCtorEq, false_iff]
    exact isNonempty
  · simp only [ofText?, ne_eq, blank, not_false_eq_true, dite_true, Option.some.injEq, Key.mk.injEq]
    exact eq_comm

@[simp] theorem ofText?_text (key : Key kind) : ofText? key.text = some key :=
  ofText?_eq_some_iff.mpr key.isTrimmed.symm

end Key

end FilingChecklist
